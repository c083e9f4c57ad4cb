import Signal2sip.Gendb.Captcha
import Signal2sip.Lib.Strip

/-!
# A captcha token comes out of what was copied

What a person copies is the token with things around it (`Decoration`): the scheme of the redirect in
front, slashes behind it, white space, quotes, and white space again. `cleanCaptchaToken` takes them
off in the opposite order. Each step finds the end of what it takes off because a bare token begins
and ends in none of these characters; what is inside it does not matter.

A token is bare when no step finds anything to do. `signalcaptcha:` is the one text that becomes the
scheme when slashes are put behind it.
-/

namespace Signal2sip

open Strip (Bare strip strip_append strip_eq_self rdropWhile_append)

/-! ## Tokens and what is around them -/

inductive Quote
  | single
  | double
deriving DecidableEq, Repr

def Quote.char : Quote → Char
  | .single => '\''
  | .double => '"'

def isQuote (c : Char) : Bool := c = '"' || c = '\''

structure BareToken where
  text : List Char
  ne_nil : text ≠ []
  first : ∀ c ∈ text.head?, isTrimmed c = false ∧ isQuote c = false
  last : ∀ c ∈ text.getLast?, isTrimmed c = false ∧ isQuote c = false ∧ c ≠ '/'
  no_scheme : ¬ captchaScheme <+: text
  ne_scheme : text ≠ "signalcaptcha:".toList

/-- White space of any length. -/
structure Blanks where
  text : List Char
  blank : ∀ c ∈ text, isTrimmed c = true

structure Decoration where
  scheme : Bool
  slashes : Nat
  inner : Blanks × Blanks
  quotes : Option Quote
  outer : Blanks × Blanks

namespace Decoration

variable (d : Decoration) (t : BareToken)

/-- The token with its scheme and its slashes. -/
def redirect : List Char :=
  (if d.scheme then captchaScheme else []) ++ t.text ++ List.replicate d.slashes '/'

/-- White space around that, and quotes around both. -/
def quoted : List Char :=
  let spaced := d.inner.1.text ++ d.redirect t ++ d.inner.2.text
  match d.quotes with
  | none => spaced
  | some quote => quote.char :: (spaced ++ [quote.char])

def decorate : String := String.ofList (d.outer.1.text ++ d.quoted t ++ d.outer.2.text)

end Decoration

/-! ## The steps -/

theorem trim_append {before s after : List Char} (hbefore : ∀ c ∈ before, isTrimmed c = true)
    (hafter : ∀ c ∈ after, isTrimmed c = true) (h : Bare isTrimmed s) :
    trim (before ++ s ++ after) = s := strip_append hbefore hafter h

theorem trim_of_bare {s : List Char} (h : Bare isTrimmed s) : trim s = s := strip_eq_self h

theorem Quote.isTrimmed_char (quote : Quote) : isTrimmed quote.char = false := by
  cases quote <;> rfl

theorem unquote_quoted (quote : Quote) (s : List Char) :
    unquote (quote.char :: (s ++ [quote.char])) = s := by
  have hlength : 2 ≤ (quote.char :: (s ++ [quote.char])).length := by
    simp only [List.length_cons, List.length_append]
    omega
  have hlast : (quote.char :: (s ++ [quote.char])).getLast? = some quote.char := by
    rw [← List.cons_append, List.getLast?_append]
    rfl
  refine (if_pos ⟨hlength, ?_⟩).trans List.dropLast_concat
  cases quote with
  | single => exact .inr ⟨rfl, hlast⟩
  | double => exact .inl ⟨rfl, hlast⟩

theorem unquote_eq_self {s : List Char} (h : ∀ c ∈ s.head?, isQuote c = false) :
    unquote s = s := by
  refine if_neg fun hquoted => ?_
  obtain ⟨hfirst, -⟩ | ⟨hfirst, -⟩ := hquoted.2
  · exact absurd (h _ hfirst) (by decide)
  · exact absurd (h _ hfirst) (by decide)

namespace Decoration

variable (d : Decoration) (t : BareToken)

theorem redirect_head :
    ∀ c ∈ (d.redirect t).head?, isTrimmed c = false ∧ isQuote c = false := by
  intro c hc
  obtain ⟨a, text, htext⟩ := List.exists_cons_of_ne_nil t.ne_nil
  cases hscheme : d.scheme with
  | true =>
    rw [redirect, hscheme] at hc
    obtain rfl : 's' = c := Option.some.inj hc
    decide
  | false =>
    rw [redirect, hscheme, htext] at hc
    exact t.first c (by rw [htext]; exact hc)

theorem redirect_last : ∀ c ∈ (d.redirect t).getLast?, isTrimmed c = false := by
  intro c hc
  rw [redirect, List.getLast?_append] at hc
  cases hslashes : (List.replicate d.slashes '/').getLast? with
  | some slash =>
    rw [hslashes] at hc
    obtain rfl : slash = c := Option.some.inj hc
    rw [List.eq_of_mem_replicate (List.mem_of_getLast? hslashes)]
    rfl
  | none =>
    obtain ⟨last, hlast⟩ := Option.isSome_iff_exists.mp (List.getLast?_isSome.mpr t.ne_nil)
    rw [hslashes, List.getLast?_append, hlast] at hc
    obtain rfl : last = c := Option.some.inj hc
    exact (t.last last hlast).1

theorem bare_redirect : Bare isTrimmed (d.redirect t) :=
  ⟨fun c hc => (d.redirect_head t c hc).1, d.redirect_last t⟩

theorem trim_decorate :
    trim (unquote (trim (d.decorate t).toList)) = d.redirect t := by
  have hquote (quote : Quote) (s : List Char) :
      Bare isTrimmed (quote.char :: (s ++ [quote.char])) := by
    constructor
    · intro c hc
      obtain rfl : quote.char = c := Option.some.inj hc
      exact quote.isTrimmed_char
    · intro c hc
      rw [← List.cons_append, List.getLast?_append] at hc
      obtain rfl : quote.char = c := Option.some.inj hc
      exact quote.isTrimmed_char
  rw [decorate, String.toList_ofList, quoted]
  cases d.quotes with
  | some quote =>
    rw [trim_append d.outer.1.blank d.outer.2.blank (hquote quote _), unquote_quoted]
    exact trim_append d.inner.1.blank d.inner.2.blank (d.bare_redirect t)
  | none =>
    have houter : ∀ c ∈ d.outer.1.text ++ d.inner.1.text, isTrimmed c = true := fun c hc =>
      (List.mem_append.mp hc).elim (d.outer.1.blank c) (d.inner.1.blank c)
    have hinner : ∀ c ∈ d.inner.2.text ++ d.outer.2.text, isTrimmed c = true := fun c hc =>
      (List.mem_append.mp hc).elim (d.inner.2.blank c) (d.outer.2.blank c)
    have hassoc : d.outer.1.text ++ (d.inner.1.text ++ d.redirect t ++ d.inner.2.text) ++
        d.outer.2.text = d.outer.1.text ++ d.inner.1.text ++ d.redirect t ++
          (d.inner.2.text ++ d.outer.2.text) := by
      simp only [List.append_assoc]
    rw [hassoc, trim_append houter hinner (d.bare_redirect t),
      unquote_eq_self fun c hc => (d.redirect_head t c hc).2]
    exact trim_of_bare (d.bare_redirect t)

end Decoration

theorem drop_slashes (t : BareToken) {slashes : List Char} (h : ∀ c ∈ slashes, c = '/') :
    ((t.text ++ slashes).reverse.dropWhile (· = '/')).reverse = t.text := by
  refine rdropWhile_append (fun c hc => ?_) fun c hc => ?_
  · simpa using h c hc
  · simpa using (t.last c hc).2.2

/-- A token does not become the scheme by the slashes behind it. -/
theorem BareToken.no_scheme_slashes (t : BareToken) (n : Nat) :
    ¬ captchaScheme <+: t.text ++ List.replicate n '/' := by
  intro hscheme
  obtain hprefix | ⟨slashes, hslashes⟩ := List.prefix_or_prefix_of_prefix hscheme
    (List.prefix_append t.text _)
  · exact t.no_scheme hprefix
  -- the slashes at the end of the scheme are among those behind the token
  rw [← hslashes, List.prefix_append_right_inj] at hscheme
  have hall : ∀ c ∈ slashes, c = '/' := fun c hc => List.eq_of_mem_replicate (hscheme.subset hc)
  have hdrop := drop_slashes t hall
  rw [hslashes] at hdrop
  exact t.ne_scheme (hdrop.symm.trans (by decide))

theorem cleanCaptchaToken_decorate (d : Decoration) (t : BareToken) :
    cleanCaptchaToken (d.decorate t) = String.ofList t.text := by
  have hslashes : ∀ c ∈ List.replicate d.slashes '/', c = '/' := fun c hc =>
    List.eq_of_mem_replicate hc
  rw [cleanCaptchaToken, d.trim_decorate t, Decoration.redirect]
  cases d.scheme with
  | true =>
    have hscheme : captchaScheme.isPrefixOf
        (captchaScheme ++ t.text ++ List.replicate d.slashes '/') = true := by
      rw [List.isPrefixOf_iff_prefix, List.append_assoc]
      exact List.prefix_append captchaScheme _
    rw [if_pos rfl, if_pos hscheme, List.append_assoc, List.drop_left, drop_slashes t hslashes]
  | false =>
    have hscheme : ¬ captchaScheme.isPrefixOf (t.text ++ List.replicate d.slashes '/') = true :=
      mt List.isPrefixOf_iff_prefix.mp (t.no_scheme_slashes d.slashes)
    rw [if_neg Bool.false_ne_true, List.nil_append, if_neg hscheme, drop_slashes t hslashes]

/-! ## The law -/

/-- Nothing around the token. -/
def Decoration.none : Decoration :=
  let blanks : Blanks := ⟨[], fun _ hc => absurd hc List.not_mem_nil⟩
  { scheme := false, slashes := 0, inner := (blanks, blanks), quotes := Option.none,
    outer := (blanks, blanks) }

theorem Decoration.decorate_none (t : BareToken) :
    Decoration.none.decorate t = String.ofList t.text := by
  simp [Decoration.decorate, Decoration.quoted, Decoration.redirect, Decoration.none]

/-- Every decoration comes off, and nothing else does. -/
theorem cleanCaptchaToken_recovers (d : Decoration) (t : BareToken) :
    cleanCaptchaToken (d.decorate t) = String.ofList t.text ∧
      cleanCaptchaToken (String.ofList t.text) = String.ofList t.text ∧
      cleanCaptchaToken (cleanCaptchaToken (d.decorate t)) = cleanCaptchaToken (d.decorate t) := by
  have hself : cleanCaptchaToken (String.ofList t.text) = String.ofList t.text :=
    Decoration.decorate_none t ▸ cleanCaptchaToken_decorate .none t
  refine ⟨cleanCaptchaToken_decorate d t, hself, ?_⟩
  rw [cleanCaptchaToken_decorate d t, hself]

/-- A token that has all of it inside. -/
def busyToken : BareToken where
  text := "a\"/ 'signalcaptcha://b".toList
  ne_nil := by decide
  first _ hc := Option.some.inj hc ▸ ⟨rfl, rfl⟩
  last _ hc := Option.some.inj hc ▸ ⟨rfl, rfl, by decide⟩
  no_scheme := by decide
  ne_scheme := by decide

/-- The whole of it around the same token. -/
def busyDecoration : Decoration :=
  let blank : Blanks := ⟨[' '], fun c hc => by rw [List.mem_singleton.mp hc]; rfl⟩
  { scheme := true, slashes := 2, inner := (blank, blank), quotes := some .double
    outer := (blank, blank) }

theorem cleanCaptchaToken_recovers_busy :
    cleanCaptchaToken " \" signalcaptcha://a\"/ 'signalcaptcha://b// \" " = "a\"/ 'signalcaptcha://b" :=
  (cleanCaptchaToken_recovers busyDecoration busyToken).1

end Signal2sip
