import Signal2sip.Storage.Records
import Mathlib.Logic.Relation

/-!
# The SIP settings screen of the TUI

`openConfig`, the editing of one field, `configErrors` and `saveConfig` of `tui/main.cpp`. The screen
edits a copy of ten settings. Saving checks the copy as a whole, and then runs `signal2sip-gendb` once
for each setting that differs from what the screen was opened with, in the order of the table
(`Tui.saveStep`).

The map of the edited values has all ten keys from `openConfig` on, so it is a function of the key
here. A text field takes any text.
-/

namespace Signal2sip

inductive FieldKind
  | text | masked | enum | bool
deriving DecidableEq, Repr

structure ConfigFieldDef where
  key : String
  kind : FieldKind
  options : List String := []
deriving DecidableEq, Repr

def kConfigFields : List ConfigFieldDef :=
  [{ key := "sip_host", kind := .text },
    { key := "sip_extension", kind := .text },
    { key := "sip_password", kind := .masked },
    { key := "sip_bridge_destination", kind := .text },
    { key := "sip_bridge_did", kind := .text },
    { key := "sip_srtp", kind := .enum, options := ["disabled", "optional", "mandatory"] },
    { key := "sip_transport", kind := .enum, options := ["udp", "tls"] },
    { key := "sip_tls_ca_file", kind := .text },
    { key := "sip_tls_insecure", kind := .bool },
    { key := "outgoing_call_target", kind := .text }]

/-- `editValues` and `originalValues`. -/
abbrev EditValues := String → String

/-- The values that the screen opens with. -/
def openConfig (detail : AccountRecord) : EditValues
  | "sip_host" => detail.sipHost
  | "sip_extension" => detail.sipExtension
  | "sip_password" => detail.sipPassword
  | "sip_bridge_destination" => detail.sipBridgeDestination
  | "sip_bridge_did" => detail.sipBridgeDid
  | "sip_srtp" => if detail.sipSrtp = "" then "disabled" else detail.sipSrtp
  | "sip_transport" => if detail.sipTransport = "" then "udp" else detail.sipTransport
  | "sip_tls_ca_file" => detail.sipTlsCaFile
  | "sip_tls_insecure" => if detail.sipTlsInsecure then "yes" else "no"
  | "outgoing_call_target" => detail.outgoingCallTarget
  | _ => ""

/-! ## Editing -/

/-- Return on an enum field: the option after the present one, the first after the last, and the
first for a value that is none of them. -/
def nextOption (options : List String) (value : String) : String :=
  if value ∈ options then options.getD ((options.idxOf value + 1) % options.length) ""
  else options.headD ""

/-- Return on a bool field. -/
def toggled (value : String) : String := if value = "yes" then "no" else "yes"

/-- One change of one field. -/
inductive Edit (f : ConfigFieldDef) (value : String) : String → Prop
  | typed (typed : String) (h : f.kind = .text ∨ f.kind = .masked) : Edit f value typed
  | chosen (h : f.kind = .enum) : Edit f value (nextOption f.options value)
  | toggled (h : f.kind = .bool) : Edit f value (toggled value)

/-- The screen after one change. -/
def Edits (before after : EditValues) : Prop :=
  ∃ f ∈ kConfigFields, ∃ value, Edit f (before f.key) value ∧
    after = fun key => if key = f.key then value else before key

/-- What a person can make of the screen. -/
def Edited (detail : AccountRecord) (values : EditValues) : Prop :=
  Relation.ReflTransGen Edits (openConfig detail) values

/-! ## Saving -/

/-- SIP is being configured for the account at all. -/
def sipFieldsInUse (v : EditValues) : Bool :=
  !(v "sip_host" = "" && v "sip_extension" = "" && v "sip_password" = "")

inductive ConfigError
  | sipHostRequired | sipExtensionRequired | sipPasswordRequired | tlsRequiresCa
deriving DecidableEq, Repr

/-- The errors that block saving, in the order in which they are listed. -/
def configErrors (v : EditValues) : List ConfigError :=
  (if sipFieldsInUse v then
    (if v "sip_host" = "" then [.sipHostRequired] else []) ++
      (if v "sip_extension" = "" then [.sipExtensionRequired] else []) ++
      (if v "sip_password" = "" then [.sipPasswordRequired] else [])
  else []) ++
    if v "sip_transport" = "tls" ∧ v "sip_tls_ca_file" = "" ∧ v "sip_tls_insecure" ≠ "yes" then
      [.tlsRequiresCa]
    else []

/-- The command for one field; an unchanged field has none. -/
def fieldCommands (originalValues editValues : EditValues) (f : ConfigFieldDef) :
    List (String × String) :=
  if editValues f.key = originalValues f.key then [] else [(f.key, editValues f.key)]

/-- The `config set` commands that saving issues, in their order. -/
def saveConfig (originalValues editValues : EditValues) : List (String × String) :=
  if configErrors editValues ≠ [] then []
  else kConfigFields.flatMap (fieldCommands originalValues editValues)

end Signal2sip
