import Signal2sip.Storage.Records

/-!
# The editable settings

`ConfigField` and `configFields` of `gendb/main.cpp`: one entry for each setting that `config get` and
`config set` know. A setter checks its value and changes one column of the row in memory.

There are three kinds of settings: free text, one of a few words, and yes or no.
-/

namespace Signal2sip

structure ConfigField where
  name : String
  get : AccountRecord → String
  set : AccountRecord → String → Except RuntimeError AccountRecord

namespace ConfigField

variable (name : String)

/-- A setting that takes any text. -/
def text (get : ConfigColumns → String) (put : ConfigColumns → String → ConfigColumns) :
    ConfigField where
  name := name
  get := fun a => get a.toConfigColumns
  set := fun a v => .ok { a with toConfigColumns := put a.toConfigColumns v }

/-- A setting that takes one of the given words. -/
def word (words : List String) (get : ConfigColumns → String)
    (put : ConfigColumns → String → ConfigColumns) : ConfigField where
  name := name
  get := fun a => get a.toConfigColumns
  set := fun a v =>
    if v ∈ words then .ok { a with toConfigColumns := put a.toConfigColumns v }
    else .error ⟨name ++ " must be " ++ "/".intercalate words ++ ", got '" ++ v ++ "'"⟩

/-- A yes-or-no setting; whatever is not one of the three spellings of yes is no. -/
def flag (get : ConfigColumns → Bool) (put : ConfigColumns → Bool → ConfigColumns) :
    ConfigField where
  name := name
  get := fun a => if get a.toConfigColumns then "yes" else "no"
  set := fun a v =>
    .ok { a with toConfigColumns := put a.toConfigColumns (v = "yes" || v = "true" || v = "1") }

end ConfigField

def configFields : List ConfigField :=
  [.text "server_url" (·.serverUrl) fun a v => { a with serverUrl := v },
    .text "sip_host" (·.sipHost) fun a v => { a with sipHost := v },
    .text "sip_extension" (·.sipExtension) fun a v => { a with sipExtension := v },
    .text "sip_password" (·.sipPassword) fun a v => { a with sipPassword := v },
    .text "sip_bridge_destination" (·.sipBridgeDestination)
      fun a v => { a with sipBridgeDestination := v },
    .text "sip_bridge_did" (·.sipBridgeDid) fun a v => { a with sipBridgeDid := v },
    .word "sip_srtp" ["disabled", "optional", "mandatory"] (·.sipSrtp)
      fun a v => { a with sipSrtp := v },
    .word "sip_transport" ["udp", "tls"] (·.sipTransport) fun a v => { a with sipTransport := v },
    .text "sip_tls_ca_file" (·.sipTlsCaFile) fun a v => { a with sipTlsCaFile := v },
    .flag "sip_tls_insecure" (·.sipTlsInsecure) fun a v => { a with sipTlsInsecure := v },
    .text "outgoing_call_target" (·.outgoingCallTarget)
      fun a v => { a with outgoingCallTarget := v },
    .text "signal_proxy" (·.signalProxy) fun a v => { a with signalProxy := v },
    .flag "signal_censorship_circumvention" (·.signalCensorshipCircumvention)
      fun a v => { a with signalCensorshipCircumvention := v }]

/-! ## What the three kinds have in common -/

/-- A column that is written and read on its own; `enabled` is another one. -/
structure IsColumn {α : Type} (get : ConfigColumns → α) (put : ConfigColumns → α → ConfigColumns) :
    Prop where
  get_put : ∀ columns v, get (put columns v) = v
  put_get : ∀ columns, put columns (get columns) = columns
  put_put : ∀ columns v w, put (put columns v) w = put columns w
  enabled_put : ∀ columns v, (put columns v).enabled = columns.enabled
  get_enabled : ∀ columns enabled, get { columns with enabled := enabled } = get columns

namespace ConfigField

/-- A setting of one of the three kinds. -/
inductive OfKind : ConfigField → Prop
  | text (name : String) {get : ConfigColumns → String}
    {put : ConfigColumns → String → ConfigColumns} (h : IsColumn get put) : OfKind (text name get put)
  | word (name : String) (words : List String) {get : ConfigColumns → String}
    {put : ConfigColumns → String → ConfigColumns} (h : IsColumn get put) :
    OfKind (word name words get put)
  | flag (name : String) {get : ConfigColumns → Bool} {put : ConfigColumns → Bool → ConfigColumns}
    (h : IsColumn get put) : OfKind (flag name get put)

theorem ofKind {field : ConfigField} (hmem : field ∈ configFields) : field.OfKind := by
  revert field
  simp only [configFields, List.forall_mem_cons, List.not_mem_nil, false_imp_iff, implies_true,
    and_true]
  refine ⟨.text _ ?_, .text _ ?_, .text _ ?_, .text _ ?_, .text _ ?_, .text _ ?_, .word _ _ ?_,
    .word _ _ ?_, .text _ ?_, .flag _ ?_, .text _ ?_, .text _ ?_, .flag _ ?_⟩
  all_goals
    constructor
    all_goals intros; rfl

variable {record edited : AccountRecord} {name value : String}

theorem text_set_ok {get : ConfigColumns → String} {put : ConfigColumns → String → ConfigColumns} :
    (text name get put).set record value = .ok edited ↔
      edited = { record with toConfigColumns := put record.toConfigColumns value } :=
  ⟨fun h => (Except.ok.inj h).symm, fun h => congrArg Except.ok h.symm⟩

theorem word_set_ok {words : List String} {get : ConfigColumns → String}
    {put : ConfigColumns → String → ConfigColumns} :
    (word name words get put).set record value = .ok edited ↔
      value ∈ words ∧
        edited = { record with toConfigColumns := put record.toConfigColumns value } := by
  simp only [word]
  split
  · next hword => exact ⟨fun h => ⟨hword, (Except.ok.inj h).symm⟩, fun h => congrArg _ h.2.symm⟩
  · next hword => exact iff_of_false nofun fun h => hword h.1

theorem flag_set_ok {get : ConfigColumns → Bool} {put : ConfigColumns → Bool → ConfigColumns} :
    (flag name get put).set record value = .ok edited ↔
      edited = { record with
        toConfigColumns :=
          put record.toConfigColumns (value = "yes" || value = "true" || value = "1") } :=
  ⟨fun h => (Except.ok.inj h).symm, fun h => congrArg Except.ok h.symm⟩

end ConfigField

def unknownConfigField (name : String) : RuntimeError :=
  ⟨"unknown config field '" ++ name ++
    "' - known fields: server_url, sip_host, sip_extension, sip_password, sip_bridge_destination, " ++
    "sip_bridge_did, sip_srtp, sip_transport, sip_tls_ca_file, sip_tls_insecure, " ++
    "outgoing_call_target, signal_proxy, signal_censorship_circumvention"⟩

def findConfigField (name : String) : Except RuntimeError ConfigField :=
  match configFields.find? fun field => field.name = name with
  | some field => .ok field
  | none => .error (unknownConfigField name)

end Signal2sip
