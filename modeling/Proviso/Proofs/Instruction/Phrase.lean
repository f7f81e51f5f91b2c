/-
  Proviso/Proofs/Instruction/Phrase.lean
  ======================================
  **Descriptions can be read back.**

  Where the text of every check is one word, descriptions make up a small language.  A phrase is a
  word, or a row of phrases in parentheses with a link before each but the first; what a group
  below the root reads as is a phrase, and the sentence of the root is a row of phrases.

  Words need no marks around them because nothing in a word can end it.  So a phrase is determined
  by its text also if more text follows, as long as that does not go on with the word
  (`Phrase.text_append_inj`), and then a sentence is determined by its text as well
  (`sentence_inj`).  The difficult case there is `, or`, which is followed by the last phrase of a
  sentence but might also be `or` as a word of its own.
-/
import Proviso.Instruction.Wording
import Proviso.Proofs.Instruction.Meaning

namespace Proviso

/-! ### Words -/

/-- The characters that end a word. -/
def isBreak (c : Char) : Bool := c == ' ' || c == ',' || c == '(' || c == ')'

/-- A text that reads as one word. -/
def Plain (text : String) : Prop := text ≠ "" ∧ ∀ c ∈ text.toList, isBreak c = false

/-- What follows does not go on with a word. -/
def Ends (rest : List Char) : Prop := ∀ c ∈ rest.head?, isBreak c = true

theorem ends_nil : Ends [] := nofun

theorem ends_cons {c : Char} {rest : List Char} (h : isBreak c = true) : Ends (c :: rest) := by
  intro d hd
  rw [List.head?_cons, Option.mem_some_iff] at hd
  exact hd ▸ h

theorem Plain.takeWhile_append {text : String} (h : Plain text) {rest : List Char}
    (hrest : Ends rest) : (text.toList ++ rest).takeWhile (!isBreak ·) = text.toList := by
  have hend : rest.takeWhile (!isBreak ·) = [] := by
    cases rest with
    | nil => rfl
    | cons c rest => simp [hrest c rfl]
  rw [List.takeWhile_append_of_pos, hend, List.append_nil]
  intro c hc
  simp [h.2 c hc]

theorem Plain.append_inj {a b : String} (ha : Plain a) (hb : Plain b) {r s : List Char}
    (hr : Ends r) (hs : Ends s) (h : a.toList ++ r = b.toList ++ s) : a = b ∧ r = s := by
  have hword : a.toList = b.toList := by rw [← ha.takeWhile_append hr, h, hb.takeWhile_append hs]
  rw [hword] at h
  exact ⟨String.toList_inj.mp hword, List.append_cancel_left h⟩

theorem Plain.exists_toList_eq_cons {text : String} (h : Plain text) :
    ∃ c rest, text.toList = c :: rest ∧ isBreak c = false := by
  cases hchars : text.toList with
  | nil => exact absurd (String.toList_eq_nil_iff.mp hchars) h.1
  | cons c rest => exact ⟨c, rest, rfl, h.2 c (hchars ▸ List.mem_cons_self)⟩

/-! ### Phrases -/

/-- What stands between the parts of a phrase. -/
inductive Link where
  | either | oneOf | allOf
  deriving DecidableEq

def Link.text : Link → String
  | .either => " or "
  | .oneOf => " || "
  | .allOf => " && "

def Link.connective : Link → Connective
  | .either => .any
  | .oneOf => .any
  | .allOf => .all

theorem Link.text_append_inj {k m : Link} {r s : List Char}
    (h : k.text.toList ++ r = m.text.toList ++ s) : k = m ∧ r = s := by
  cases k <;> cases m <;> simp_all [text]

theorem Link.exists_toList_eq_cons (k : Link) : ∃ rest, k.text.toList = ' ' :: rest := by
  cases k <;> simp [text]

mutual

/-- A word, or a row of phrases in parentheses. -/
inductive Phrase where
  | word (text : String) (plain : Plain text)
  | enclosed (first : Phrase) (rest : Links)

/-- The phrases of a row after the first, each with the link before it. -/
inductive Links where
  | done
  | more (k : Link) (next : Phrase) (rest : Links)

end

mutual

def Phrase.text : Phrase → String
  | .word text _ => text
  | .enclosed first rest => "(" ++ first.text ++ rest.text

def Links.text : Links → String
  | .done => ")"
  | .more k next rest => k.text ++ next.text ++ rest.text

end

mutual

/-- What a phrase says if `v` tells what the words say. -/
def Phrase.holds (v : String → Bool) : Phrase → Bool
  | .word text _ => v text
  | .enclosed first rest => rest.holds v (first.holds v)

/-- What a row says if `said` is what it says up to here. -/
def Links.holds (v : String → Bool) (said : Bool) : Links → Bool
  | .done => said
  | .more k next rest => rest.holds v (k.connective.verdict [said, next.holds v])

end

theorem Links.ends (l : Links) (rest : List Char) : Ends (l.text.toList ++ rest) := by
  cases l with
  | done =>
    rw [Links.text]
    exact ends_cons rfl
  | more k next rest =>
    obtain ⟨tail, htail⟩ := k.exists_toList_eq_cons
    rw [Links.text, String.toList_append, String.toList_append, htail]
    exact ends_cons rfl

mutual

/-- **A phrase is determined by its text**, also if more text follows that ends it. -/
theorem Phrase.text_append_inj {p q : Phrase} {r s : List Char} (hr : Ends r) (hs : Ends s)
    (h : p.text.toList ++ r = q.text.toList ++ s) : p = q ∧ r = s := by
  match p, q with
  | .word a ha, .word b hb =>
    obtain ⟨rfl, hrest⟩ := ha.append_inj hb hr hs h
    exact ⟨rfl, hrest⟩
  | .word a ha, .enclosed first rest =>
    obtain ⟨c, tail, ha, hc⟩ := ha.exists_toList_eq_cons
    simp [Phrase.text, ha] at h
    simp [h.1, isBreak] at hc
  | .enclosed first rest, .word b hb =>
    obtain ⟨c, tail, hb, hc⟩ := hb.exists_toList_eq_cons
    simp [Phrase.text, hb] at h
    simp [← h.1, isBreak] at hc
  | .enclosed p ps, .enclosed q qs =>
    -- a link and the closing parenthesis both end the first phrase
    simp only [Phrase.text, String.toList_append, List.append_assoc, List.append_cancel_left_eq]
      at h
    obtain ⟨rfl, hrest⟩ := Phrase.text_append_inj (ps.ends r) (qs.ends s) h
    obtain ⟨rfl, hend⟩ := Links.text_append_inj hrest
    exact ⟨rfl, hend⟩

theorem Links.text_append_inj {l m : Links} {r s : List Char}
    (h : l.text.toList ++ r = m.text.toList ++ s) : l = m ∧ r = s := by
  match l, m with
  | .done, .done => exact ⟨rfl, List.append_cancel_left h⟩
  | .done, .more k next rest =>
    obtain ⟨tail, htail⟩ := k.exists_toList_eq_cons
    simp [Links.text, htail] at h
  | .more k next rest, .done =>
    obtain ⟨tail, htail⟩ := k.exists_toList_eq_cons
    simp [Links.text, htail] at h
  | .more k p ps, .more m q qs =>
    simp only [Links.text, String.toList_append, List.append_assoc] at h
    obtain ⟨rfl, hnext⟩ := Link.text_append_inj h
    obtain ⟨rfl, hrest⟩ := Phrase.text_append_inj (ps.ends r) (qs.ends s) hnext
    obtain ⟨rfl, hend⟩ := Links.text_append_inj hrest
    exact ⟨rfl, hend⟩

end

theorem Phrase.text_inj {p q : Phrase} (h : p.text = q.text) : p = q :=
  (text_append_inj ends_nil ends_nil (congrArg (·.toList ++ []) h)).1

/-! ### Groups below the root -/

/-- A row with the same link before each phrase. -/
def Links.ofList (k : Link) : List Phrase → Links
  | [] => .done
  | p :: rest => .more k p (ofList k rest)

/-- Phrases in parentheses, joined by one link. -/
def Phrase.joined (k : Link) (first : Phrase) (rest : List Phrase) : Phrase :=
  .enclosed first (.ofList k rest)

/-- The phrase that a group reads as below the root. -/
def Phrase.ofGroup : Connective → Phrase → List Phrase → Phrase
  | .any, only, [] => only
  | .any, first, [second] => joined .either first [second]
  | .any, first, rest => joined .oneOf first rest
  | .all, first, rest => joined .allOf first rest

theorem Phrase.text_joined (k : Link) (first : Phrase) (rest : List Phrase) :
    (joined k first rest).text =
      parenthesized (k.text.intercalate ((first :: rest).map Phrase.text)) := by
  have hrest : first.text ++ (Links.ofList k rest).text =
      k.text.intercalate ((first :: rest).map Phrase.text) ++ ")" := by
    induction rest generalizing first with
    | nil => simp [Links.ofList, Links.text]
    | cons p rest ih =>
      simp only [List.map_cons] at ih ⊢
      simp only [Links.ofList, Links.text, String.intercalate_cons_cons, String.append_assoc, ih]
  rw [joined, Phrase.text, String.append_assoc, hrest, parenthesized, String.append_assoc]

theorem Connective.verdict_cons_cons (k : Connective) (a b : Bool) (rest : List Bool) :
    k.verdict (a :: b :: rest) = k.verdict (k.verdict [a, b] :: rest) := by
  cases k with
  | all => simp [verdict, Bool.and_assoc]
  | any => simp [verdict, Bool.or_assoc]

theorem Phrase.holds_joined (v : String → Bool) (k : Link) (first : Phrase)
    (rest : List Phrase) : (joined k first rest).holds v =
      k.connective.verdict ((first :: rest).map (Phrase.holds v)) := by
  have hrest : ∀ said, (Links.ofList k rest).holds v said =
      k.connective.verdict (said :: rest.map (Phrase.holds v)) := by
    induction rest with
    | nil => intro said; cases k <;> simp [Links.ofList, Links.holds, Link.connective,
        Connective.verdict]
    | cons p rest ih =>
      intro said
      rw [Links.ofList, Links.holds, ih, List.map_cons, ← Connective.verdict_cons_cons]
  rw [joined, Phrase.holds, hrest, List.map_cons]

theorem Phrase.text_ofGroup (k : Connective) (first : Phrase) (rest : List Phrase) :
    (ofGroup k first rest).text = k.join .nested ((first :: rest).map Phrase.text) := by
  match k, rest with
  | .any, [] => rfl
  | .any, [second] => simp [ofGroup, text_joined, Connective.join, alternatives, Link.text,
      String.intercalate_cons_cons]
  | .any, p :: q :: rest => simp [ofGroup, text_joined, Connective.join, alternatives, Link.text]
  | .all, rest => simp [ofGroup, text_joined, Connective.join, jointly, Link.text]

theorem Phrase.holds_ofGroup (v : String → Bool) (k : Connective) (first : Phrase)
    (rest : List Phrase) :
    (ofGroup k first rest).holds v = k.verdict ((first :: rest).map (Phrase.holds v)) := by
  match k, rest with
  | .any, [] => simp [ofGroup, Connective.verdict]
  | .any, [second] => rw [ofGroup, holds_joined, Link.connective]
  | .any, p :: q :: rest => simp [ofGroup, holds_joined, Link.connective]
  | .all, rest => rw [ofGroup, holds_joined, Link.connective]

/-! ### Sentences -/

/-- What a sentence says after its first phrase, if it has three or more. -/
def listing : List Phrase → String
  | [] => ""
  | [last] => ", or " ++ last.text
  | p :: rest => ", " ++ p.text ++ listing rest

/-- What a sentence says after its first phrase. -/
def continuation : List Phrase → String
  | [] => ""
  | [second] => " or " ++ second.text
  | rest => listing rest

theorem exists_listing_eq_cons (p : Phrase) (rest : List Phrase) :
    ∃ tail, (listing (p :: rest)).toList = ',' :: tail := by
  cases rest <;> simp [listing]

/-- After a comma, `or` is followed by a blank only where the last phrase follows. -/
theorem or_append_ne_append_listing (last p q : Phrase) (rest : List Phrase) :
    "or ".toList ++ last.text.toList ≠ p.text.toList ++ (listing (q :: rest)).toList := by
  intro h
  have hor : Plain "or" := by simp [Plain, isBreak]
  obtain ⟨tail, htail⟩ := exists_listing_eq_cons q rest
  have hword : (Phrase.word "or" hor).text.toList ++ ' ' :: last.text.toList =
      p.text.toList ++ ',' :: tail := by
    simpa [Phrase.text, htail] using h
  have hrest := (Phrase.text_append_inj (ends_cons rfl) (ends_cons rfl) hword).2
  simp at hrest

theorem listing_inj {p q : Phrase} {ps qs : List Phrase}
    (h : (listing (p :: ps)).toList = (listing (q :: qs)).toList) : p :: ps = q :: qs := by
  induction ps generalizing p q qs with
  | nil =>
    cases qs with
    | nil =>
      have htext : p.text = q.text := by simpa [listing, String.toList_inj] using h
      rw [Phrase.text_inj htext]
    | cons q' qs =>
      refine absurd ?_ (or_append_ne_append_listing p q q' qs)
      simpa [listing] using h
  | cons p' ps ih =>
    cases qs with
    | nil =>
      refine absurd ?_ (or_append_ne_append_listing q p p' ps)
      simpa [listing] using h.symm
    | cons q' qs =>
      have hnext : p.text.toList ++ (listing (p' :: ps)).toList =
          q.text.toList ++ (listing (q' :: qs)).toList := by
        simpa [listing] using h
      obtain ⟨ptail, hp⟩ := exists_listing_eq_cons p' ps
      obtain ⟨qtail, hq⟩ := exists_listing_eq_cons q' qs
      obtain ⟨rfl, hrest⟩ := Phrase.text_append_inj (hp ▸ ends_cons rfl) (hq ▸ ends_cons rfl) hnext
      rw [ih hrest]

theorem ends_continuation (ps : List Phrase) : Ends (continuation ps).toList := by
  match ps with
  | [] => exact ends_nil
  | [second] =>
    simp only [continuation, String.toList_append]
    exact ends_cons rfl
  | p :: q :: rest =>
    obtain ⟨tail, htail⟩ := exists_listing_eq_cons p (q :: rest)
    show Ends (listing (p :: q :: rest)).toList
    rw [htail]
    exact ends_cons rfl

theorem continuation_inj {ps qs : List Phrase}
    (h : (continuation ps).toList = (continuation qs).toList) : ps = qs := by
  -- the first character tells how many phrases there are: none, one, or more
  match ps, qs with
  | [], [] => rfl
  | [], [_] => simp [continuation] at h
  | [_], [] => simp [continuation] at h
  | [p], [q] =>
    have htext : p.text = q.text := by simpa [continuation, String.toList_inj] using h
    rw [Phrase.text_inj htext]
  | p :: p' :: ps, q :: q' :: qs => exact listing_inj h
  | p :: p' :: ps, [] =>
    obtain ⟨tail, htail⟩ := exists_listing_eq_cons p (p' :: ps)
    simp [continuation, htail] at h
  | p :: p' :: ps, [q] =>
    obtain ⟨tail, htail⟩ := exists_listing_eq_cons p (p' :: ps)
    simp [continuation, htail] at h
  | [], q :: q' :: qs =>
    obtain ⟨tail, htail⟩ := exists_listing_eq_cons q (q' :: qs)
    simp [continuation, htail] at h
  | [p], q :: q' :: qs =>
    obtain ⟨tail, htail⟩ := exists_listing_eq_cons q (q' :: qs)
    simp [continuation, htail] at h

/-- The sentence of some phrases as alternatives at the root. -/
def sentence (first : Phrase) (rest : List Phrase) : String :=
  alternatives .root ((first :: rest).map Phrase.text)

theorem listing_eq (p q : Phrase) (rest : List Phrase) :
    p.text ++ listing (q :: rest) =
      ", ".intercalate ((p :: q :: rest).map Phrase.text).dropLast ++ ", or " ++
        ((p :: q :: rest).map Phrase.text).getLast?.getD "" := by
  induction rest generalizing p q with
  | nil => simp [listing, String.append_assoc]
  | cons r rest ih =>
    simp only [List.map_cons, List.dropLast_cons_cons, List.getLast?_cons_cons] at ih ⊢
    simp only [listing, String.intercalate_cons_cons, String.append_assoc, ih]

theorem sentence_eq (first : Phrase) (rest : List Phrase) :
    sentence first rest = first.text ++ continuation rest := by
  match rest with
  | [] => simp [sentence, alternatives, continuation]
  | [second] => simp [sentence, alternatives, continuation, String.append_assoc]
  | p :: q :: rest => exact (listing_eq first p (q :: rest)).symm

/-- **A sentence is determined by its text.** -/
theorem sentence_inj {p q : Phrase} {ps qs : List Phrase} (h : sentence p ps = sentence q qs) :
    p = q ∧ ps = qs := by
  rw [sentence_eq, sentence_eq, ← String.toList_inj, String.toList_append,
    String.toList_append] at h
  obtain ⟨hfirst, hrest⟩ :=
    Phrase.text_append_inj (ends_continuation ps) (ends_continuation qs) h
  exact ⟨hfirst, continuation_inj hrest⟩

/-- What a group reads as at the root is a sentence; joint expectations are a single phrase. -/
theorem exists_sentence_eq_join (k : Connective) (first : Phrase) (rest : List Phrase) :
    ∃ p ps, sentence p ps = k.join .root ((first :: rest).map Phrase.text) ∧
      ∀ v, Connective.any.verdict ((p :: ps).map (Phrase.holds v)) =
        k.verdict ((first :: rest).map (Phrase.holds v)) := by
  match k, rest with
  | .any, rest => exact ⟨first, rest, rfl, fun v => rfl⟩
  | .all, [] =>
    refine ⟨first, [], ?_, ?_⟩
    · simp [sentence, alternatives, Connective.join, jointly]
    · simp [Connective.verdict]
  | .all, second :: rest =>
    refine ⟨.joined .allOf first (second :: rest), [], ?_, ?_⟩
    · simp [sentence, alternatives, Phrase.text_joined, Connective.join, jointly, Link.text]
    · intro v
      rw [List.map_singleton, Phrase.holds_joined, Link.connective]
      simp [Connective.verdict]

end Proviso
