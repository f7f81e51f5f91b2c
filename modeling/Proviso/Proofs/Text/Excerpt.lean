/-
  Proviso/Proofs/Text/Excerpt.lean
  ================================
  **Quoted texts can be read back.**

  Whichever characters are hidden, a quoted character can be read off the front of a text whatever
  follows it (`readQuotedChar?_append`): after a backslash the next character says how it goes on,
  and the digits of a code point end at a brace.  None of them begins with a quote, so the quote
  behind a quoted text ends it there, also where the text holds quotes or what looks like an escape
  (`quoted_append_inj`).  An excerpt therefore tells what it quotes, and whether there is an ellipsis
  behind it: two texts have the same excerpt iff they are the same, or both are longer than an
  excerpt and begin alike.
-/
import Proviso.Json.Description

namespace Proviso.Text

/-! ### Code points -/

theorem hexNumber?_concat (n : Nat) (ds : List Char) (c : Char) :
    hexNumber? n (ds ++ [c]) =
      (hexNumber? n ds).bind fun m => (hexValue? c).map (16 * m + ·) := by
  induction ds generalizing n with
  | nil =>
    rw [List.nil_append, hexNumber?, hexNumber?]
    cases hexValue? c <;> rfl
  | cons d rest ih =>
    rw [List.cons_append, hexNumber?, hexNumber?]
    cases hexValue? d with
    | none => rfl
    | some v => exact ih (16 * n + v)

theorem hexValue?_digitChar {d : Nat} (h : d < 16) : hexValue? d.digitChar = some d := by
  have hall : ∀ d < 16, hexValue? d.digitChar = some d := by decide
  exact hall d h

/-- Hexadecimal digits read as the number they write. -/
theorem hexNumber?_hexDigits (n : Nat) : hexNumber? 0 (hexDigits n) = some n := by
  induction n using Nat.strongRecOn with
  | ind n ih =>
    rw [hexDigits, Nat.toDigits_eq_if (by decide)]
    by_cases h : n < 16
    · rw [if_pos h, hexNumber?, hexValue?_digitChar h]
      simp [hexNumber?]
    · have hless : n / 16 < n := Nat.div_lt_self (by omega) (by decide)
      rw [if_neg h, hexNumber?_concat, ← hexDigits, ih _ hless,
        hexValue?_digitChar (Nat.mod_lt n (by decide))]
      simp [Nat.div_add_mod]

/-- Whatever reads as a number consists of digits. -/
theorem hexValue?_ne_none_of_mem {n : Nat} {ds : List Char} (h : hexNumber? n ds ≠ none) {c : Char}
    (hc : c ∈ ds) : hexValue? c ≠ none := by
  induction ds generalizing n with
  | nil => cases hc
  | cons d rest ih =>
    rw [hexNumber?] at h
    cases hd : hexValue? d with
    | none => simp [hd] at h
    | some v =>
      rw [hd] at h
      rcases List.mem_cons.mp hc with rfl | hc
      · simp [hd]
      · exact ih h hc

theorem ne_brace_of_mem_hexDigits {n : Nat} {c : Char} (h : c ∈ hexDigits n) : c ≠ '\x7d' := by
  rintro rfl
  have hread : hexNumber? 0 (hexDigits n) ≠ none := by
    rw [hexNumber?_hexDigits]
    exact Option.some_ne_none n
  exact hexValue?_ne_none_of_mem hread h (by decide)

theorem charOf?_toNat (c : Char) : charOf? c.toNat = some c := by
  have hvalid : c.toNat.isValidChar := c.valid
  rw [charOf?, dif_pos hvalid]
  rfl

/-! ### One character -/

/-- The character that a letter behind a backslash stands for. -/
def escaped? : Char → Option Char
  | '"' => some '"'
  | '\\' => some '\\'
  | '0' => some '\x00'
  | 't' => some '\t'
  | 'n' => some '\n'
  | 'r' => some '\r'
  | _ => none

/-- The quoted character at the front of a text, and what follows it. -/
def readQuotedChar? : List Char → Option (Char × List Char)
  | '\\' :: 'u' :: '\x7b' :: rest => do
    let n ← hexNumber? 0 (rest.takeWhile (· ≠ '\x7d'))
    return (← charOf? n, (rest.dropWhile (· ≠ '\x7d')).tail)
  | '\\' :: letter :: rest => do return (← escaped? letter, rest)
  | c :: rest => some (c, rest)
  | [] => none

theorem readQuotedChar?_codePointEscape (c : Char) (rest : List Char) :
    readQuotedChar? (codePointEscape c ++ rest) = some (c, rest) := by
  have hdigits : ∀ d ∈ hexDigits c.toNat, decide (d ≠ '\x7d') = true := by
    intro d hd
    exact decide_eq_true (ne_brace_of_mem_hexDigits hd)
  have hsplit : (hexDigits c.toNat ++ ['\x7d']) ++ rest = hexDigits c.toNat ++ '\x7d' :: rest := by
    rw [List.append_assoc, List.singleton_append]
  show readQuotedChar? ('\\' :: 'u' :: '\x7b' :: ((hexDigits c.toNat ++ ['\x7d']) ++ rest)) = _
  rw [readQuotedChar?, hsplit, List.takeWhile_append_of_pos hdigits,
    List.dropWhile_append_of_pos hdigits]
  simp [hexNumber?_hexDigits, charOf?_toNat]

theorem readQuotedChar?_of_ne {c : Char} (h : c ≠ '\\') (rest : List Char) :
    readQuotedChar? (c :: rest) = some (c, rest) := by
  rw [readQuotedChar?.eq_def]
  split
  · next heq => exact absurd (List.cons.inj heq).1 h
  · next heq => exact absurd (List.cons.inj heq).1 h
  · next heq =>
    obtain ⟨rfl, rfl⟩ := List.cons.inj heq
    rfl
  · next heq => cases heq

/-- **A quoted character is read back** from in front of any text. -/
theorem readQuotedChar?_append (hidden : Char → Bool) (c : Char) (rest : List Char) :
    readQuotedChar? (quotedChar hidden c ++ rest) = some (c, rest) := by
  fun_cases quotedChar hidden c with
  | case7 c hc =>
    rw [if_pos hc]
    exact readQuotedChar?_codePointEscape c rest
  | case8 c hc hquote hbackslash =>
    rw [if_neg hc]
    exact readQuotedChar?_of_ne hbackslash rest
  | _ => rfl

variable {hidden : Char → Bool}

theorem quotedChar_append_inj {c d : Char} {r s : List Char}
    (h : quotedChar hidden c ++ r = quotedChar hidden d ++ s) : c = d ∧ r = s := by
  have hread := readQuotedChar?_append hidden c r
  rw [h, readQuotedChar?_append] at hread
  exact Prod.mk.inj (Option.some.inj hread).symm

/-- No quoted character begins with a quote. -/
theorem quote_cons_ne (c : Char) (r s : List Char) : '"' :: r ≠ quotedChar hidden c ++ s := by
  fun_cases quotedChar hidden c with
  | case7 c hc =>
    intro h
    rw [if_pos hc] at h
    exact absurd (List.cons.inj h).1 (by decide)
  | case8 c hc hquote =>
    intro h
    rw [if_neg hc] at h
    exact hquote (List.cons.inj h).1.symm
  | _ =>
    intro h
    exact absurd (List.cons.inj h).1 (by decide)

/-! ### Texts -/

/-- A quote ends what is quoted, wherever it comes. -/
theorem quoted_append_inj {s t r r' : List Char}
    (h : s.flatMap (quotedChar hidden) ++ '"' :: r = t.flatMap (quotedChar hidden) ++ '"' :: r') :
    s = t ∧ r = r' := by
  induction s generalizing t with
  | nil =>
    cases t with
    | nil => exact ⟨rfl, (List.cons.inj h).2⟩
    | cons d t =>
      rw [List.flatMap_nil, List.nil_append, List.flatMap_cons, List.append_assoc] at h
      exact absurd h (quote_cons_ne d _ _)
  | cons c s ih =>
    cases t with
    | nil =>
      rw [List.flatMap_nil, List.nil_append, List.flatMap_cons, List.append_assoc] at h
      exact absurd h.symm (quote_cons_ne c _ _)
    | cons d t =>
      rw [List.flatMap_cons, List.append_assoc, List.flatMap_cons, List.append_assoc] at h
      obtain ⟨rfl, hrest⟩ := quotedChar_append_inj h
      obtain ⟨rfl, hr⟩ := ih hrest
      exact ⟨rfl, hr⟩

/-- What stands behind the quotes of an excerpt. -/
def ellipsis (s : List Char) : List Char := if s.length ≤ excerptLength then [] else "...".toList

theorem excerptBy_eq (s : List Char) : excerptBy hidden s =
    '"' :: ((s.take excerptLength).flatMap (quotedChar hidden) ++ '"' :: ellipsis s) := by
  rw [excerptBy, ellipsis]
  by_cases h : s.length ≤ excerptLength
  · rw [if_pos h, if_pos h, List.take_of_length_le h, quotedBy]
  · rw [if_neg h, if_neg h, quotedBy, List.cons_append, List.append_assoc, List.singleton_append]

theorem ellipsis_eq_iff {s t : List Char} :
    ellipsis s = ellipsis t ↔ (s.length ≤ excerptLength ↔ t.length ≤ excerptLength) := by
  rw [ellipsis, ellipsis]
  by_cases hs : s.length ≤ excerptLength <;> by_cases ht : t.length ≤ excerptLength <;>
    simp [hs, ht]

/-- **An excerpt tells texts apart** as far as it goes. -/
theorem excerptBy_eq_iff {s t : List Char} : excerptBy hidden s = excerptBy hidden t ↔
    s = t ∨ (excerptLength < s.length ∧ excerptLength < t.length ∧
      s.take excerptLength = t.take excerptLength) := by
  rw [excerptBy_eq, excerptBy_eq]
  constructor
  · intro h
    obtain ⟨htake, hellipsis⟩ := quoted_append_inj (List.cons.inj h).2
    rw [ellipsis_eq_iff] at hellipsis
    by_cases hs : s.length ≤ excerptLength
    · -- both are quoted in full
      rw [List.take_of_length_le hs, List.take_of_length_le (hellipsis.mp hs)] at htake
      exact Or.inl htake
    · have ht : ¬ t.length ≤ excerptLength := fun ht => hs (hellipsis.mpr ht)
      exact Or.inr ⟨Nat.lt_of_not_le hs, Nat.lt_of_not_le ht, htake⟩
  · rintro (rfl | ⟨hs, ht, htake⟩)
    · rfl
    · have hellipsis : ellipsis s = ellipsis t :=
        ellipsis_eq_iff.mpr (iff_of_false (Nat.not_le_of_lt hs) (Nat.not_le_of_lt ht))
      rw [htake, hellipsis]

end Proviso.Text

namespace Proviso.Json

theorem describeBy_str_inj {hidden : Char → Bool} {withArticle : Bool} {s t : String} :
    (Json.str s).describeBy hidden withArticle = (Json.str t).describeBy hidden withArticle ↔
      Text.excerptBy hidden s.toList = Text.excerptBy hidden t.toList := by
  show noun withArticle (.str s) ++ (" (" ++ String.ofList _ ++ ")") =
    noun withArticle (.str s) ++ (" (" ++ String.ofList _ ++ ")") ↔ _
  rw [String.append_right_inj, String.append_left_inj, String.append_right_inj, String.ofList_inj]

/-- **Texts in words are told apart** by their first 32 characters, and by whether there are more.
    Whichever characters are written by their code point, and with the article or without, two texts
    are described alike iff they are the same, or both have more than 32 characters and begin with
    the same 32. -/
theorem describeBy_str_eq_iff (hidden : Char → Bool) (withArticle : Bool) (s t : String) :
    (Json.str s).describeBy hidden withArticle = (Json.str t).describeBy hidden withArticle ↔
      s = t ∨ (32 < s.length ∧ 32 < t.length ∧ s.toList.take 32 = t.toList.take 32) := by
  rw [describeBy_str_inj, Text.excerptBy_eq_iff, String.toList_inj, String.length_toList,
    String.length_toList]

/-- A text that looks like an escape is told apart from the character that the escape is for. -/
example : (Json.str "\\u\x7b1\x7d").describe true ≠ (Json.str "\x01").describe true := by
  decide +kernel

end Proviso.Json
