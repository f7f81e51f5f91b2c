/-
  Proviso/Proofs/Json/Content.lean
  ================================
  **What a value says, apart from how it is written.**

  The content of a value has rationals for its numbers and, for an object, the map from keys to
  contents; two maps are the same if they have the same content under every key.  Equality by
  magnitude is equality of content (`agrees_iff_content_eq`), and so it is an equivalence that
  ignores the order of keys at every depth.

  Of two objects only the keys on the left are looked up.  Where keys are distinct and the objects
  have equally many, no key on the right is left over (`keys_perm`); this is also
  why a value that is equal to one with distinct keys has distinct keys itself
  (`DistinctKeys.of_agrees`).
-/
import Mathlib.Data.List.Forall2
import Mathlib.Data.List.Perm.Subperm
import Proviso.Json.Equality
import Proviso.Proofs.Json.Magnitude

namespace Proviso

/-- What a value says. -/
inductive Content where
  | null
  | bool (b : Bool)
  | num (q : ℚ)
  | str (s : String)
  | arr (items : List Content)
  | obj (at? : String → Option Content)

namespace Json

mutual

def content : Json → Content
  | .null => .null
  | .bool b => .bool b
  | .num n => .num n.value
  | .str s => .str s
  | .arr items => .arr (contents items)
  | .obj members => .obj (contentAt? members)

def contents : List Json → List Content
  | [] => []
  | j :: rest => j.content :: contents rest

/-- The content under a key. -/
def contentAt? : List (String × Json) → String → Option Content
  | [], _ => none
  | (key, j) :: rest, wanted => if wanted = key then some j.content else contentAt? rest wanted

end

/-! ### Values by their parts -/

@[elab_as_elim]
theorem induction {motive : Json → Prop} (null : motive .null) (bool : ∀ b, motive (.bool b))
    (num : ∀ n, motive (.num n)) (str : ∀ s, motive (.str s))
    (arr : ∀ items, (∀ j ∈ items, motive j) → motive (.arr items))
    (obj : ∀ members, (∀ m ∈ members, motive m.2) → motive (.obj members)) : ∀ j, motive j
  | .null => null
  | .bool b => bool b
  | .num n => num n
  | .str s => str s
  | .arr items => arr items fun j _ => induction null bool num str arr obj j
  | .obj members => obj members fun m _ => induction null bool num str arr obj m.2
termination_by j => sizeOf j
decreasing_by
  · rename_i h
    have hlt := List.sizeOf_lt_of_mem h
    simp only [Json.arr.sizeOf_spec]
    omega
  · rename_i h
    have hlt := List.sizeOf_lt_of_mem h
    obtain ⟨key, j⟩ := m
    simp only [Prod.mk.sizeOf_spec] at hlt
    simp only [Json.obj.sizeOf_spec]
    omega

theorem contents_eq_map (items : List Json) : contents items = items.map content := by
  induction items with
  | nil => rfl
  | cons j rest ih => rw [contents, ih, List.map_cons]

theorem contentAt?_eq (members : List (String × Json)) (key : String) :
    contentAt? members key = (members.lookup key).map content := by
  induction members with
  | nil => rfl
  | cons m rest ih =>
    rw [contentAt?, List.lookup_cons, ih]
    by_cases h : key = m.1
    · simp [h]
    · simp [h, beq_eq_false_iff_ne.mpr h]

theorem distinctKeys_arr {items : List Json} :
    (arr items).DistinctKeys ↔ ∀ j ∈ items, j.DistinctKeys := by
  rw [DistinctKeys]
  induction items with
  | nil => simp [DistinctKeysList]
  | cons j rest ih => rw [DistinctKeysList, ih, List.forall_mem_cons]

theorem distinctKeys_obj {members : List (String × Json)} :
    (obj members).DistinctKeys ↔
      (members.map Prod.fst).Nodup ∧ ∀ m ∈ members, m.2.DistinctKeys := by
  have hmembers : DistinctKeysMembers members ↔ ∀ m ∈ members, m.2.DistinctKeys := by
    induction members with
    | nil => simp [DistinctKeysMembers]
    | cons m rest ih => rw [DistinctKeysMembers, ih, List.forall_mem_cons]
  rw [DistinctKeys, hmembers]

theorem mem_of_lookup {members : List (String × Json)} {key : String} {j : Json}
    (h : members.lookup key = some j) : (key, j) ∈ members := by
  obtain ⟨before, behind, rfl, -⟩ := List.lookup_eq_some_iff.mp h
  simp

theorem mem_keys_iff {members : List (String × Json)} {key : String} :
    key ∈ members.map Prod.fst ↔ (members.lookup key).isSome = true := by
  rw [List.lookup_isSome_iff, List.mem_map]
  simp only [beq_iff_eq, eq_comm (a := key)]

theorem lookup_eq_some_iff {members : List (String × Json)} {key : String} {j : Json}
    (h : (members.map Prod.fst).Nodup) : members.lookup key = some j ↔ (key, j) ∈ members := by
  induction members with
  | nil => simp
  | cons m rest ih =>
    obtain ⟨key', j'⟩ := m
    rw [List.map_cons, List.nodup_cons] at h
    rw [List.lookup_cons, List.mem_cons, Prod.mk.injEq]
    by_cases hkey : key = key'
    · subst hkey
      have hnot : (key, j) ∉ rest := fun hmem => h.1 (List.mem_map.mpr ⟨_, hmem, rfl⟩)
      simp [hnot, eq_comm]
    · simp [hkey, beq_eq_false_iff_ne.mpr hkey, ih h.2]

/-! ### Equality by its parts -/

variable {eqNumber : Number → Number → Bool}

theorem equalItems_iff {l r : List Json} : equalItems eqNumber l r = true ↔
    List.Forall₂ (fun x y => equalBy eqNumber x y = true) l r := by
  induction l generalizing r with
  | nil => cases r <;> simp [equalItems]
  | cons x l ih =>
    cases r with
    | nil => simp [equalItems]
    | cons y r => simp [equalItems, ih]

theorem equalMembers_iff {l r : List (String × Json)} : equalMembers eqNumber l r = true ↔
    ∀ m ∈ l, ∃ y, r.lookup m.1 = some y ∧ equalBy eqNumber m.2 y = true := by
  induction l with
  | nil => simp [equalMembers]
  | cons m l ih =>
    rw [equalMembers, Bool.and_eq_true, ih, List.forall_mem_cons]
    apply and_congr_left
    intro _
    cases h : r.lookup m.1 <;> simp

/-- Where the keys on the left are distinct and all of them are on the right, and the objects have
    equally many, the keys on the right are the same. -/
theorem keys_perm {l r : List (String × Json)} (hl : (l.map Prod.fst).Nodup)
    (hlength : l.length = r.length) (h : ∀ m ∈ l, ∃ y, r.lookup m.1 = some y) :
    (l.map Prod.fst).Perm (r.map Prod.fst) := by
  have hsub : l.map Prod.fst ⊆ r.map Prod.fst := by
    intro key hkey
    obtain ⟨m, hm, rfl⟩ := List.mem_map.mp hkey
    obtain ⟨y, hy⟩ := h m hm
    exact mem_keys_iff.mpr (by simp [hy])
  apply (hl.subperm hsub).perm_of_length_le
  rw [List.length_map, List.length_map, hlength]

theorem agrees_arr {l r : List Json} : (arr l).agrees (.arr r) = true ↔
    List.Forall₂ (fun x y => x.agrees y = true) l r := by
  rw [agrees, equalBy, equalItems_iff]

theorem agrees_obj {l r : List (String × Json)} : (obj l).agrees (.obj r) = true ↔
    l.length = r.length ∧ ∀ m ∈ l, ∃ y, r.lookup m.1 = some y ∧ m.2.agrees y = true := by
  rw [agrees, equalBy, Bool.and_eq_true, beq_iff_eq, equalMembers_iff]

/-- What is equal to a value with distinct keys has distinct keys. -/
theorem DistinctKeys.of_agrees {l r : Json} (hl : l.DistinctKeys) (h : l.agrees r = true) :
    r.DistinctKeys := by
  induction l using induction generalizing r with
  | null => cases r <;> simp_all [agrees, equalBy, DistinctKeys]
  | bool b => cases r <;> simp_all [agrees, equalBy, DistinctKeys]
  | num n => cases r <;> simp_all [agrees, equalBy, DistinctKeys]
  | str s => cases r <;> simp_all [agrees, equalBy, DistinctKeys]
  | arr l ih =>
    cases r with
    | arr r =>
      rw [distinctKeys_arr] at hl ⊢
      rw [agrees_arr] at h
      induction h with
      | nil => exact List.forall_mem_nil _
      | cons hxy _ ihrow =>
        rw [List.forall_mem_cons] at hl ih ⊢
        exact ⟨ih.1 hl.1 hxy, ihrow ih.2 hl.2⟩
    | _ => simp [agrees, equalBy] at h
  | obj l ih =>
    cases r with
    | obj r =>
      rw [distinctKeys_obj] at hl ⊢
      obtain ⟨hlength, hfound⟩ := agrees_obj.mp h
      have hperm := keys_perm hl.1 hlength fun m hm => (hfound m hm).imp fun _ hy => hy.1
      have hr : (r.map Prod.fst).Nodup := hperm.nodup_iff.mp hl.1
      refine ⟨hr, ?_⟩
      intro m hm
      -- the member stands on the left too, with a value that this one was found equal to
      obtain ⟨m', hm', hkey⟩ := List.mem_map.mp (hperm.mem_iff.mpr (List.mem_map_of_mem hm))
      obtain ⟨y, hy, hagrees⟩ := hfound m' hm'
      rw [hkey, (lookup_eq_some_iff hr).mpr hm] at hy
      cases hy
      exact ih m' hm' (hl.2 m' hm') hagrees
    | _ => simp [agrees, equalBy] at h

/-! ### Equality is equality of content -/

theorem contents_eq_iff {l r : List Json} : contents l = contents r ↔
    List.Forall₂ (fun x y => x.content = y.content) l r := by
  rw [contents_eq_map, contents_eq_map, ← List.forall₂_eq_eq_eq, List.forall₂_map_left_iff,
    List.forall₂_map_right_iff]

theorem contentAt?_eq_iff {l r : List (String × Json)} (hl : (l.map Prod.fst).Nodup)
    (hr : (r.map Prod.fst).Nodup) : contentAt? l = contentAt? r ↔
      l.length = r.length ∧ ∀ m ∈ l, ∃ y, r.lookup m.1 = some y ∧ m.2.content = y.content := by
  constructor
  · intro h
    have hat : ∀ key, (l.lookup key).map content = (r.lookup key).map content := by
      intro key
      rw [← contentAt?_eq, h, contentAt?_eq]
    constructor
    · have hperm : (l.map Prod.fst).Perm (r.map Prod.fst) := by
        rw [List.perm_ext_iff_of_nodup hl hr]
        intro key
        have hsome := congrArg Option.isSome (hat key)
        rw [Option.isSome_map, Option.isSome_map] at hsome
        rw [mem_keys_iff, mem_keys_iff, hsome]
      simpa using hperm.length_eq
    · intro m hm
      have hkey := hat m.1
      rw [(lookup_eq_some_iff hl).mpr hm, Option.map_some, eq_comm, Option.map_eq_some_iff] at hkey
      obtain ⟨y, hy, hcontent⟩ := hkey
      exact ⟨y, hy, hcontent.symm⟩
  · rintro ⟨hlength, hfound⟩
    have hperm := keys_perm hl hlength fun m hm => (hfound m hm).imp fun _ hy => hy.1
    funext key
    rw [contentAt?_eq, contentAt?_eq]
    cases hx : l.lookup key with
    | none =>
      have hnot : key ∉ l.map Prod.fst := by simp [mem_keys_iff, hx]
      rw [hperm.mem_iff, mem_keys_iff, Option.not_isSome_iff_eq_none] at hnot
      rw [hnot]
    | some x =>
      obtain ⟨y, hy, hcontent⟩ := hfound (key, x) (mem_of_lookup hx)
      rw [hy, Option.map_some, Option.map_some, hcontent]

theorem agrees_iff_of_distinctKeys {l r : Json} (hl : l.DistinctKeys) (hr : r.DistinctKeys) :
    l.agrees r = true ↔ l.content = r.content := by
  induction l using induction generalizing r with
  | null => cases r <;> simp [agrees, equalBy, content]
  | bool b => cases r <;> simp [agrees, equalBy, content]
  | num n => cases r <;> simp [agrees, equalBy, content, Number.agrees_iff]
  | str s => cases r <;> simp [agrees, equalBy, content]
  | arr l ih =>
    cases r with
    | arr r =>
      rw [distinctKeys_arr] at hl hr
      rw [agrees_arr, content, content, Content.arr.injEq, contents_eq_iff]
      induction l generalizing r with
      | nil => rw [List.forall₂_nil_left_iff, List.forall₂_nil_left_iff]
      | cons x l ihrow =>
        cases r with
        | nil => simp
        | cons y r =>
          rw [List.forall_mem_cons] at hl hr ih
          rw [List.forall₂_cons, List.forall₂_cons, ih.1 hl.1 hr.1, ihrow ih.2 hl.2 r hr.2]
    | _ => simp [agrees, equalBy, content]
  | obj l ih =>
    cases r with
    | obj r =>
      rw [distinctKeys_obj] at hl hr
      rw [agrees_obj, content, content, Content.obj.injEq, contentAt?_eq_iff hl.1 hr.1]
      apply and_congr_right
      intro _
      apply forall₂_congr
      intro m hm
      apply exists_congr
      intro y
      apply and_congr_right
      intro hy
      exact ih m hm (hl.2 m hm) (hr.2 _ (mem_of_lookup hy))
    | _ => simp [agrees, equalBy, content]

theorem agrees_self {j : Json} (h : j.DistinctKeys) : j.agrees j = true :=
  (agrees_iff_of_distinctKeys h h).mpr rfl

theorem agrees_symm {l r : Json} (hl : l.DistinctKeys) (h : l.agrees r = true) :
    r.agrees l = true := by
  have hr := hl.of_agrees h
  rw [agrees_iff_of_distinctKeys hl hr] at h
  rw [agrees_iff_of_distinctKeys hr hl, h]

theorem agrees_trans {l m r : Json} (hl : l.DistinctKeys) (hlm : l.agrees m = true)
    (hmr : m.agrees r = true) : l.agrees r = true := by
  have hm := hl.of_agrees hlm
  have hr := hm.of_agrees hmr
  rw [agrees_iff_of_distinctKeys hl hm] at hlm
  rw [agrees_iff_of_distinctKeys hm hr] at hmr
  rw [agrees_iff_of_distinctKeys hl hr, hlm, hmr]

/-- Of two equal values either is equal to the same others. -/
theorem agrees_congr_left {x y : Json} (hx : x.DistinctKeys) (h : x.agrees y = true) (a : Json) :
    x.agrees a = y.agrees a := by
  rw [Bool.eq_iff_iff]
  constructor
  · intro ha
    exact agrees_trans (hx.of_agrees h) (agrees_symm hx h) ha
  · intro ha
    exact agrees_trans hx h ha

/-! ### The order of keys -/

/-- One value is the other with the members of its objects in another order, at any depth. -/
inductive Reordered : Json → Json → Prop where
  | refl (j : Json) : Reordered j j
  | arr {l r : List Json} : List.Forall₂ Reordered l r → Reordered (.arr l) (.arr r)
  | obj {l m r : List (String × Json)} : l.map Prod.fst = m.map Prod.fst →
    List.Forall₂ Reordered (l.map Prod.snd) (m.map Prod.snd) → m.Perm r →
    Reordered (.obj l) (.obj r)

/-- Under the same keys, each member of one row has its counterpart in the other. -/
theorem exists_of_mem_of_forall₂ {p : Json → Json → Prop} {l m : List (String × Json)}
    (hkeys : l.map Prod.fst = m.map Prod.fst)
    (h : List.Forall₂ p (l.map Prod.snd) (m.map Prod.snd)) :
    ∀ e ∈ l, ∃ y, (e.1, y) ∈ m ∧ p e.2 y := by
  induction l generalizing m with
  | nil => exact List.forall_mem_nil _
  | cons e l ih =>
    cases m with
    | nil => cases hkeys
    | cons f m =>
      rw [List.map_cons, List.map_cons] at hkeys h
      obtain ⟨hkey, hkeys⟩ := List.cons.inj hkeys
      obtain ⟨hef, h⟩ := List.forall₂_cons.mp h
      rw [List.forall_mem_cons]
      constructor
      · refine ⟨f.2, ?_, hef⟩
        rw [hkey]
        exact List.mem_cons_self
      · intro g hg
        obtain ⟨y, hy, hgy⟩ := ih hkeys h g hg
        exact ⟨y, List.mem_cons_of_mem f hy, hgy⟩

/-- A reordered value is equal to the one it was. -/
theorem agrees_of_reordered {l r : Json} (hl : l.DistinctKeys) (h : Reordered l r) :
    l.agrees r = true := by
  induction l using induction generalizing r with
  | arr l ih =>
    cases h with
    | refl => exact agrees_self hl
    | arr h =>
      rw [distinctKeys_arr] at hl
      rw [agrees_arr]
      induction h with
      | nil => exact List.Forall₂.nil
      | cons hxy _ ihrow =>
        rw [List.forall_mem_cons] at hl ih
        exact List.Forall₂.cons (ih.1 hl.1 hxy) (ihrow ih.2 hl.2)
  | obj l ih =>
    cases h with
    | refl => exact agrees_self hl
    | @obj _ m r hkeys hvalues hperm =>
      rw [distinctKeys_obj] at hl
      have hr : (r.map Prod.fst).Nodup := by
        rw [← (hperm.map Prod.fst).nodup_iff, ← hkeys]
        exact hl.1
      rw [agrees_obj]
      constructor
      · have hlength := congrArg List.length hkeys
        rw [List.length_map, List.length_map] at hlength
        rw [hlength, hperm.length_eq]
      · intro e he
        obtain ⟨y, hy, hey⟩ := exists_of_mem_of_forall₂ hkeys hvalues e he
        exact ⟨y, (lookup_eq_some_iff hr).mpr (hperm.mem_iff.mp hy), ih e he (hl.2 e he) hey⟩
  | _ =>
    cases h
    exact agrees_self hl

/-! ### Equality of form -/

theorem equalBy_imp {p q : Number → Number → Bool} (h : ∀ m n, p m n = true → q m n = true)
    {l r : Json} (hlr : equalBy p l r = true) : equalBy q l r = true := by
  induction l using induction generalizing r with
  | num n =>
    cases r with
    | num m =>
      rw [equalBy] at hlr ⊢
      exact h n m hlr
    | _ => simp [equalBy] at hlr
  | arr l ih =>
    cases r with
    | arr r =>
      rw [equalBy, equalItems_iff] at hlr ⊢
      induction hlr with
      | nil => exact List.Forall₂.nil
      | cons hxy _ ihrow =>
        rw [List.forall_mem_cons] at ih
        exact List.Forall₂.cons (ih.1 hxy) (ihrow ih.2)
    | _ => simp [equalBy] at hlr
  | obj l ih =>
    cases r with
    | obj r =>
      rw [equalBy, Bool.and_eq_true, equalMembers_iff] at hlr ⊢
      refine ⟨hlr.1, ?_⟩
      intro m hm
      obtain ⟨y, hy, heq⟩ := hlr.2 m hm
      exact ⟨y, hy, ih m hm heq⟩
    | _ => simp [equalBy] at hlr
  | _ => cases r <;> simp_all [equalBy]

end Json

theorem Number.agrees_of_same {m n : Number} (h : m.same n = true) : m.agrees n = true := by
  rw [agrees_iff]
  cases m with
  | whole m =>
    cases n with
    | whole n =>
      have hval : m.val = n.val := beq_iff_eq.mp h
      rw [value, value, hval]
    | binary y => cases h
  | binary x =>
    cases n with
    | whole n => cases h
    | binary y =>
      have hcompare : x.compare y = .eq := beq_iff_eq.mp h
      rw [Binary64.compare_eq, compare_eq_iff_eq] at hcompare
      exact hcompare

namespace Json

theorem agrees_of_same {l r : Json} (h : l.same r = true) : l.agrees r = true :=
  equalBy_imp (fun _ _ => Number.agrees_of_same) h

/-- **Equality by magnitude is equality of content.**  So it is an equivalence on values with
    distinct keys, it ignores the order of keys at every depth, and it follows from equality of
    number and form. -/
theorem agrees_iff_content_eq :
    (∀ l r : Json, l.DistinctKeys → r.DistinctKeys →
      (l.agrees r = true ↔ l.content = r.content)) ∧
    (∀ j : Json, j.DistinctKeys → j.agrees j = true) ∧
    (∀ l r : Json, l.DistinctKeys → l.agrees r = true → r.agrees l = true) ∧
    (∀ l m r : Json, l.DistinctKeys → l.agrees m = true → m.agrees r = true →
      l.agrees r = true) ∧
    (∀ l r : Json, l.DistinctKeys → Reordered l r → l.agrees r = true) ∧
    ∀ l r : Json, l.same r = true → l.agrees r = true := by
  exact ⟨fun _ _ => agrees_iff_of_distinctKeys, fun _ => agrees_self, fun _ _ => agrees_symm,
    fun _ _ _ => agrees_trans, fun _ _ => agrees_of_reordered, fun _ _ => agrees_of_same⟩

def wholeOne : Json := ofWhole ⟨1, by decide, by decide⟩

def wholeFive : Json := ofWhole ⟨5, by decide, by decide⟩

/-- A value, the same with its members in another order, and with its numbers in another form as
    well. -/
def written : Json :=
  .obj [("a", wholeFive), ("b", .arr [.obj [("c", .null), ("d", wholeOne)]])]

def turned : Json :=
  .obj [("b", .arr [.obj [("d", wholeOne), ("c", .null)]]), ("a", wholeFive)]

def rewritten : Json :=
  .obj [("b", .arr [.obj [("d", .num (.binary ⟨false, 0x3ff0000000000000, by decide⟩)),
    ("c", .null)]]), ("a", .num (.binary ⟨false, 0x4014000000000000, by decide⟩))]

theorem distinctKeys_written : written.DistinctKeys := by
  simp [written, wholeOne, wholeFive, ofWhole, DistinctKeys, DistinctKeysList,
    DistinctKeysMembers]

theorem reordered_turned : Reordered written turned := by
  have hinner : Reordered (.obj [("c", .null), ("d", wholeOne)])
      (.obj [("d", wholeOne), ("c", .null)]) :=
    Reordered.obj rfl (List.forall₂_same.mpr fun j _ => Reordered.refl j) (List.Perm.swap _ _ _)
  have hitem := Reordered.arr (List.Forall₂.cons hinner List.Forall₂.nil)
  refine Reordered.obj (m := [("a", wholeFive), ("b", .arr [.obj [("d", wholeOne),
    ("c", .null)]])]) rfl ?_ (List.Perm.swap _ _ _)
  exact List.Forall₂.cons (Reordered.refl _) (List.Forall₂.cons hitem List.Forall₂.nil)

theorem agrees_iff_content_eq_written :
    (written.DistinctKeys ∧ rewritten.DistinctKeys) ∧
    (written.agrees rewritten = true ∧ written.content = rewritten.content) ∧
    (written.agrees written = true ∧ rewritten.agrees written = true) ∧
    (rewritten.agrees turned = true ∧ written.agrees turned = true) ∧
    (Reordered written turned ∧ turned.agrees written = true) ∧
    (turned.same written = true ∧ turned.agrees written = true) ∧
    written.same rewritten = false := by
  obtain ⟨hcontent, hself, hsymm, htrans, horder, hsame⟩ := agrees_iff_content_eq
  have hl : written.DistinctKeys := distinctKeys_written
  have hr : rewritten.DistinctKeys := by
    simp [rewritten, DistinctKeys, DistinctKeysList, DistinctKeysMembers]
  have hrewritten : written.agrees rewritten = true := by decide +kernel
  have hturned : rewritten.agrees turned = true := by decide +kernel
  have hform : turned.same written = true := by decide +kernel
  exact ⟨⟨hl, hr⟩, ⟨hrewritten, (hcontent _ _ hl hr).mp hrewritten⟩,
    ⟨hself _ hl, hsymm _ _ hl hrewritten⟩, ⟨hturned, htrans _ _ _ hl hrewritten hturned⟩,
    ⟨reordered_turned, hsymm _ _ hl (horder _ _ hl reordered_turned)⟩,
    ⟨hform, hsame _ _ hform⟩, by decide +kernel⟩

end Json

end Proviso
