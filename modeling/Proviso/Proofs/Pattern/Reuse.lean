/-
  Proviso/Proofs/Pattern/Reuse.lean
  =================================
  **Keeping compilations changes no verdict.**

  What compiling does is left open, and so is which entry gives way when the store is full.  The
  store is faithful if it keeps within its capacity, holds one compilation for a pattern at most,
  and holds the one that compiling the pattern gives.  The empty store is faithful, and a look-up
  keeps it so, whether it finds the pattern, stores it in a free place or in that of another entry,
  or fails on it (`Faithful.fetch`).  From a faithful store comes what compiling afresh would give
  (`Faithful.fetch_fst`), so no row of evaluations tells that there is a store.
-/
import Proviso.Check.Matching
import Proviso.Pattern.Cache

namespace Proviso.Pattern

namespace Cache

variable {ε ρ : Type} {compile : String → Except ε ρ} (occurs : ρ → String → Bool)

/-- The store keeps within its capacity and holds one compilation for a pattern at most, which is
    the pattern's own. -/
structure Faithful (compile : String → Except ε ρ) (c : Cache ρ) : Prop where
  bounded : c.entries.length ≤ capacity
  distinct : (c.entries.map Prod.fst).Nodup
  own : ∀ e ∈ c.entries, compile e.1 = .ok e.2

theorem faithful_empty : Faithful compile (empty : Cache ρ) where
  bounded := Nat.zero_le _
  distinct := List.nodup_nil
  own := List.forall_mem_nil _

/-! ### Making room -/

/-- Any entry of a full store may give way. -/
theorem entries_makeRoom_of_full {c : Cache ρ} (h : capacity ≤ c.entries.length) {i : Nat}
    (hi : i < c.entries.length) : (c.makeRoom i).entries = c.entries.eraseIdx i := by
  rw [makeRoom, if_neg (Nat.not_lt_of_le h), Nat.mod_eq_of_lt hi]

theorem sublist_makeRoom (c : Cache ρ) (victim : Nat) :
    (c.makeRoom victim).entries.Sublist c.entries := by
  rw [makeRoom]
  split
  · exact List.Sublist.refl _
  · exact List.eraseIdx_sublist _ _

theorem length_makeRoom_lt {c : Cache ρ} (h : c.entries.length ≤ capacity) (victim : Nat) :
    (c.makeRoom victim).entries.length < capacity := by
  rw [makeRoom]
  split
  · next hlt => exact hlt
  · next hfull =>
    have hpos : 0 < c.entries.length :=
      Nat.lt_of_lt_of_le (by decide : 0 < capacity) (Nat.le_of_not_lt hfull)
    have hvictim : victim % c.entries.length < c.entries.length := Nat.mod_lt _ hpos
    rw [List.length_eraseIdx, if_pos hvictim]
    exact Nat.lt_of_lt_of_le (Nat.pred_lt_of_lt hpos) h

/-! ### One look-up -/

theorem Faithful.fetch_fst {c : Cache ρ} (h : c.Faithful compile) (victim : Nat)
    (pattern : String) : (c.fetch compile victim pattern).1 = compile pattern := by
  rw [Cache.fetch]
  cases hfound : c.entries.lookup pattern with
  | some compiled =>
    obtain ⟨before, after, hentries, -⟩ := List.lookup_eq_some_iff.mp hfound
    have hmem : (pattern, compiled) ∈ c.entries := by simp [hentries]
    exact (h.own _ hmem).symm
  | none => cases hcompile : compile pattern <;> rfl

theorem Faithful.fetch {c : Cache ρ} (h : c.Faithful compile) (victim : Nat) (pattern : String) :
    (c.fetch compile victim pattern).2.Faithful compile := by
  rw [Cache.fetch]
  cases hfound : c.entries.lookup pattern with
  | some compiled => exact h
  | none =>
    cases hcompile : compile pattern with
    | error e => exact h
    | ok compiled =>
      have hkept := c.sublist_makeRoom victim
      -- the pattern is new, so it is none of those that stay
      have hnew : pattern ∉ (c.makeRoom victim).entries.map Prod.fst := by
        intro hmem
        obtain ⟨e, he, rfl⟩ := List.mem_map.mp hmem
        simpa using List.lookup_eq_none_iff.mp hfound e (hkept.subset he)
      exact {
        bounded := length_makeRoom_lt h.bounded victim
        distinct := List.nodup_cons.mpr ⟨hnew, (hkept.map Prod.fst).nodup h.distinct⟩
        own := List.forall_mem_cons.mpr ⟨hcompile, fun e he => h.own e (hkept.subset he)⟩ }

/-- A pattern that does not compile is not stored. -/
theorem fetch_snd_of_error (c : Cache ρ) (victim : Nat) {pattern : String} {e : ε}
    (h : compile pattern = .error e) : (c.fetch compile victim pattern).2 = c := by
  rw [fetch, h]
  cases c.entries.lookup pattern <;> rfl

/-! ### One search -/

/-- A search by way of a faithful store finds what the engine finds without one. -/
theorem Faithful.search_fst {c : Cache ρ} (h : c.Faithful compile) (victim : Nat)
    (pattern text : String) : (c.search compile occurs victim pattern text).1 =
      (Engine.mk compile occurs).finds pattern text := by
  have hfetch : _ = (Engine.mk compile occurs).compile pattern := h.fetch_fst victim pattern
  rw [search, Engine.finds, ← hfetch]
  cases c.fetch compile victim pattern with
  | mk compiled after => cases compiled <;> rfl

theorem search_snd (c : Cache ρ) (victim : Nat) (pattern text : String) :
    (c.search compile occurs victim pattern text).2 = (c.fetch compile victim pattern).2 := by
  rw [search]
  cases h : c.fetch compile victim pattern with
  | mk compiled after => cases compiled <;> rfl

/-! ### Evaluations -/

/-- What the check for patterns is evaluated on, and the entry that gives way if one has to. -/
structure Use where
  value : Json
  args : List Json
  victim : Nat

/-- An evaluation of the check for patterns, by way of the store. -/
def evaluate (compile : String → Except ε ρ) (occurs : ρ → String → Bool) (c : Cache ρ)
    (u : Use) : Bool × Cache ρ :=
  match Check.textAndPattern? u.value u.args with
  | some (text, pattern) => c.search compile occurs u.victim pattern text
  | none => (false, c)

/-- A row of evaluations: the verdict and the store after each of them. -/
def evaluateEach (compile : String → Except ε ρ) (occurs : ρ → String → Bool) :
    Cache ρ → List Use → List (Bool × Cache ρ)
  | _, [] => []
  | c, u :: rest =>
    let step := c.evaluate compile occurs u
    step :: evaluateEach compile occurs step.2 rest

/-- The verdict of the check for patterns without a store. -/
def verdictAfresh (compile : String → Except ε ρ) (occurs : ρ → String → Bool) (value : Json)
    (args : List Json) : Bool :=
  match Check.textAndPattern? value args with
  | some (text, pattern) => (Engine.mk compile occurs).finds pattern text
  | none => false

theorem Faithful.evaluate {c : Cache ρ} (h : c.Faithful compile) (u : Use) :
    (c.evaluate compile occurs u).1 = verdictAfresh compile occurs u.value u.args ∧
      (c.evaluate compile occurs u).2.Faithful compile := by
  rw [Cache.evaluate, verdictAfresh]
  cases Check.textAndPattern? u.value u.args with
  | none => exact ⟨rfl, h⟩
  | some subject =>
    obtain ⟨text, pattern⟩ := subject
    constructor
    · exact h.search_fst occurs u.victim pattern text
    · show (c.search compile occurs u.victim pattern text).2.Faithful compile
      rw [search_snd]
      exact h.fetch u.victim pattern

/-- From a faithful store on, every verdict is that of compiling afresh, and every store is
    faithful. -/
theorem Faithful.evaluateEach {c : Cache ρ} (h : c.Faithful compile) (uses : List Use) :
    (c.evaluateEach compile occurs uses).map Prod.fst =
        uses.map (fun u => verdictAfresh compile occurs u.value u.args) ∧
      ∀ step ∈ c.evaluateEach compile occurs uses, step.2.Faithful compile := by
  induction uses generalizing c with
  | nil => exact ⟨rfl, List.forall_mem_nil _⟩
  | cons u rest ih =>
    obtain ⟨hverdict, hstore⟩ := h.evaluate occurs u
    obtain ⟨hverdicts, hstores⟩ := ih hstore
    rw [Cache.evaluateEach]
    constructor
    · rw [List.map_cons, List.map_cons, hverdict, hverdicts]
    · exact List.forall_mem_cons.mpr ⟨hstore, hstores⟩

end Cache

/-! ### The check -/

/-- The check compiles its pattern each time, as far as its verdicts tell. -/
theorem verdictAfresh_eq_passes {ε ρ : Type} (engine : Engine ε ρ) (value : Json)
    (args : List Json) : Cache.verdictAfresh engine.compile engine.occurs value args =
      (Check.matchingWith engine).passes value args := by
  show _ = Option.any _ (Check.textAndPattern? value args)
  rw [Cache.verdictAfresh]
  cases Check.textAndPattern? value args with
  | none => rfl
  | some subject => rfl

/-- **Nobody can tell that compilations are kept.**  Whatever compiling does, whatever the check for
    patterns is evaluated on from the empty store on, and whichever entry gives way each time: every
    verdict is that of compiling afresh, and after each evaluation the store holds a hundred
    compilations at most, for different patterns, and each is the pattern's own.  A pattern that
    does not compile leaves any store as it is.  With any engine the verdicts of the check itself
    are those of an evaluation by way of the store. -/
theorem reuse_keeps_verdicts :
    (∀ (ε ρ : Type) (compile : String → Except ε ρ) (occurs : ρ → String → Bool)
        (uses : List Cache.Use),
      (Cache.empty.evaluateEach compile occurs uses).map Prod.fst =
          uses.map (fun u => Cache.verdictAfresh compile occurs u.value u.args) ∧
        (∀ step ∈ Cache.empty.evaluateEach compile occurs uses,
          step.2.entries.length ≤ 100 ∧ (step.2.entries.map Prod.fst).Nodup ∧
            ∀ e ∈ step.2.entries, compile e.1 = .ok e.2) ∧
        ∀ (c : Cache ρ) (u : Cache.Use) (text pattern : String) (e : ε),
          Check.textAndPattern? u.value u.args = some (text, pattern) →
            compile pattern = .error e → (c.evaluate compile occurs u).2 = c) ∧
    ∀ (ε ρ : Type) (engine : Engine ε ρ) (uses : List Cache.Use),
      (Cache.empty.evaluateEach engine.compile engine.occurs uses).map Prod.fst =
        uses.map fun u => (Check.matchingWith engine).passes u.value u.args := by
  constructor
  · intro ε ρ compile occurs uses
    have hfaithful : Cache.Faithful compile Cache.empty := Cache.faithful_empty
    obtain ⟨hverdicts, hstores⟩ := hfaithful.evaluateEach occurs uses
    refine ⟨hverdicts, ?_, ?_⟩
    · intro step hstep
      have h := hstores step hstep
      exact ⟨h.bounded, h.distinct, h.own⟩
    · intro c u text pattern e hsubject hcompile
      rw [Cache.evaluate, hsubject]
      show (c.search compile occurs u.victim pattern text).2 = c
      rw [Cache.search_snd, Cache.fetch_snd_of_error c u.victim hcompile]
  · intro ε ρ engine uses
    have hfaithful : Cache.Faithful engine.compile Cache.empty := Cache.faithful_empty
    rw [(hfaithful.evaluateEach engine.occurs uses).1]
    exact List.map_congr_left fun u _ => verdictAfresh_eq_passes engine u.value u.args

/-- Texts that are patterns of themselves, but for one that does not compile. -/
def compileLiteral (pattern : String) : Except Unit String :=
  if pattern = "(" then .error () else .ok pattern

/-- Evaluations on this many different patterns, each on the pattern itself; when the store is full
    its oldest entry but one gives way. -/
def manyUses (count : Nat) : List Cache.Use :=
  (List.range count).map fun n =>
    let text := Json.str (String.singleton (Char.ofNat (0x29 + n)))
    ⟨text, [text], 98⟩

/-- One pattern more than the store has room for, and then one that does not compile. -/
theorem reuse_keeps_verdicts_crowded :
    Check.textAndPattern? (.str "x") [.str "("] = some ("x", "(") ∧
    compileLiteral "(" = .error () ∧
    ∃ step ∈ Cache.empty.evaluateEach compileLiteral (· == ·) (manyUses 101),
      step.2.entries.length = Cache.capacity ∧
      (step.2.entries.map Prod.fst).Nodup ∧
      (step.2.evaluate compileLiteral (· == ·) ⟨.str "x", [.str "("], 0⟩).2 = step.2 := by
  have hlast : (Cache.empty.evaluateEach compileLiteral (· == ·) (manyUses 101)).getLast?.map
      (·.2.entries.length) = some Cache.capacity := by decide +kernel
  obtain ⟨step, hstep, hlength⟩ := Option.map_eq_some_iff.mp hlast
  have hmem := List.mem_of_getLast? hstep
  have hkept := reuse_keeps_verdicts.1 Unit String compileLiteral (· == ·) (manyUses 101)
  refine ⟨rfl, rfl, step, hmem, hlength, (hkept.2.1 step hmem).2.1, ?_⟩
  exact hkept.2.2 step.2 ⟨.str "x", [.str "("], 0⟩ "x" "(" () rfl rfl

end Proviso.Pattern
