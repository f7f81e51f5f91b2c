/-
  Proviso/Pattern/Footprint.lean
  ==============================
  **The footprint of a pattern**: what the two automata take that find where a match ends and,
  from there backwards, where it starts.

  Only patterns with a footprint below the limit are searched for.  Repetitions are written out,
  so a count multiplies what is under it.
-/
import Proviso.Pattern.Extent
import Proviso.Pattern.Footprint.Rows
import Proviso.Pattern.Footprint.Words
import Proviso.Text.Utf8

namespace Proviso.Pattern

/-! ### Leaves as bytes -/

/-- What a leaf consumes, in bytes and in the order in which an automaton reads them. -/
inductive Piece where
  | word (bytes : List Nat)
  /-- One byte, from so many ranges. -/
  | byte (ranges : Nat)
  | forwards (rows : Footprint.RowTree)
  | backwards (rows : List (List (Nat × Nat)))
  deriving Repr

namespace Piece

/-- The bytes of a text. -/
def encoded (cs : List Char) : List Nat := cs.flatMap fun c => Text.Utf8.encode c.toNat

/-- Whether each character of the set is one byte. -/
def isAscii (s : CharSet) : Bool := s.all fun (_, hi) => hi < 0x80

/-- The leaf, read forwards. -/
def ahead : Leaf → Piece
  | .text cs => .word (encoded cs)
  | .set s =>
    if isAscii s then .byte s.length else .forwards (.ofRows (s.flatMap Text.Utf8.rows))

/-- The leaf, read backwards. -/
def back : Leaf → Piece
  | .text cs => .word (encoded cs).reverse
  | .set s => if isAscii s then .byte s.length else .backwards (s.flatMap Text.Utf8.rows)

/-- The bytes consumed at least; nothing is in no range. -/
def width : Piece → Option Nat
  | .word bytes => some bytes.length
  | .byte 0 => none
  | _ => some 1

/-- The bytes, if the piece is a word. -/
def word? : Shape Piece Anchor → Option (List Nat)
  | .one (.word bytes) => some bytes
  | _ => none

/-- What the piece takes if the state `first` is the next one. -/
def footprint (first : Nat) : Piece → Footprint
  | .word bytes => .simple bytes.length
  | .byte ranges => (Footprint.branching ranges).add (.simple 1)
  | .forwards rows => rows.footprint first
  | .backwards rows => Footprint.rowsBackwards rows first

end Piece

/-! ### Trees as automata -/

namespace Shape

/-- What a repetition takes on top of `f`, when one round of it does `step`. -/
def repetition? (step : Footprint → Option Footprint) (consumes : Bool) (least : Nat)
    (most : Option Nat) (f : Footprint) : Option Footprint :=
  let optional (f : Footprint) := (f.charge? (.fork 2)).bind step
  match least, most with
  | 0, none =>
    if consumes then optional f
    else do (← (← (← step f).charge? (.fork 2)).charge? (.fork 2)).charge? (.simple 1)
  | least, none => do (← Footprint.rounds? step least f).charge? (.fork 2)
  | 0, some 1 => do (← optional f).charge? (.simple 1)
  | least, some most => do
    let f ← if least = 0 then f.charge? (.simple 1) else Footprint.rounds? step least f
    if least = most then return f
    else Footprint.rounds? optional (most - least) (← f.charge? (.simple 1))

mutual

/-- What the tree takes on top of `f`, unless that is too much.  The order of the states counts:
    the number of a state has a part in which states are shared. -/
def footprint? : Shape Piece Anchor → Footprint → Option Footprint
  | .empty, f => f.charge? (.simple 1)
  | .one piece, f => f.charge? (piece.footprint f.states)
  | .at _, f => f.charge? (.simple 1)
  | .times p least most _, f =>
    repetition? p.footprint? (p.extent Piece.width).consumes least most f
  | .group _ p, f => do (← p.footprint? (← f.charge? (.simple 1))).charge? (.simple 1)
  | .seq ps, f => rowFootprint? ps f
  | .alt ps, f =>
    match ps.mapM Piece.word? with
    | some words => f.charge? (Footprint.WordTree.ofList words).footprint
    | none => choiceFootprint? 0 ps f

/-- What trees one after the other take on top of `f`. -/
def rowFootprint? : List (Shape Piece Anchor) → Footprint → Option Footprint
  | [], f => some f
  | p :: rest, f => do rowFootprint? rest (← p.footprint? f)

/-- What a choice takes on top of `f`, with `n` branches made.  The states where it starts and
    ends are made behind the second branch. -/
def choiceFootprint? (n : Nat) : List (Shape Piece Anchor) → Footprint → Option Footprint
  | [], f => some f
  | p :: rest, f => do
    let f ← p.footprint? f
    choiceFootprint? (n + 1) rest (← f.charge? ⟨if n = 1 then 2 else 0, 4⟩)

end

mutual

/-- The tree with its rows reversed and without its groups, which do not matter on the way
    back. -/
def mirror {σ τ : Type} : Shape σ τ → Shape σ τ
  | .empty => .empty
  | .one s => .one s
  | .at a => .at a
  | .times p least most reluctant => .times p.mirror least most reluctant
  | .group _ p => p.mirror
  | .seq ps => .seq (mirrorEach ps).reverse
  | .alt ps => .alt (mirrorEach ps)

def mirrorEach {σ τ : Type} : List (Shape σ τ) → List (Shape σ τ)
  | [] => []
  | p :: rest => p.mirror :: mirrorEach rest

end

end Shape

/-! ### Both automata -/

/-- What precedes a match: nothing if it lies at the end of the text, else any bytes. -/
def leadIn (anchored : Bool) : Footprint :=
  if anchored then .simple 1 else (Footprint.fork 2).add ((Footprint.branching 1).add (.simple 1))

/-- Whether the automaton for a tree, with a state behind for success, stays within the limit. -/
def fitsBehind (start : Footprint) (p : Shape Piece Anchor) : Bool :=
  ((p.footprint? start).bind fun f => f.charge? (.simple 1)).isSome

/-- Whether both automata for a pattern stay within the limit.  The one that reads forwards has
    the whole pattern as a group. -/
def fits (p : Pattern) : Bool :=
  fitsBehind (leadIn (extent p).opens) (.group 0 (p.map Piece.ahead id)) &&
    fitsBehind (leadIn (extent p).closes) (p.map Piece.back id).mirror

end Proviso.Pattern
