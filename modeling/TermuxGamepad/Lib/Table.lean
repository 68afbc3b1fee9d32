/-
  File:      TermuxGamepad/Lib/Table.lean
  Subject:   Tables of records under distinct keys: a list, searched from the front, from which
             a record goes by moving the last one into its place.

  `remove` reorders the table. What it keeps is the content: as a set of records the table has
  lost exactly the key (`mem_remove`), and lookups of other keys answer as before.
-/
import Mathlib.Data.List.Perm.Basic
import Mathlib.Data.List.Nodup

namespace Wire

/-! ## 1. Operations -/

namespace Table

variable {α κ : Type} [DecidableEq κ] (key : α → κ)

/-- The first record under a key. -/
def lookup (k : κ) (l : List α) : Option α := l.find? (fun a => decide (key a = k))

/-- The last record goes to place `i`. -/
def moveLast (i : Nat) (l : List α) : List α :=
  match l.getLast? with
  | none => l
  | some z => (l.set i z).dropLast

/-- The first record under a key goes. -/
def remove (k : κ) (l : List α) : List α :=
  match l.findIdx? (fun a => decide (key a = k)) with
  | none => l
  | some i => moveLast i l

/-- The first record under the key of `a` becomes `a`. -/
def update (a : α) (l : List α) : List α :=
  match l.findIdx? (fun b => decide (key b = key a)) with
  | none => l
  | some i => l.set i a

/-- Distinct keys. -/
def Distinct (l : List α) : Prop := (l.map key).Nodup

/-! ## 2. Removal, up to order -/

theorem moveLast_perm (xs : List α) (a : α) (ys : List α) :
    (moveLast xs.length (xs ++ a :: ys)).Perm (xs ++ ys) := by
  rcases List.eq_nil_or_concat ys with rfl | ⟨zs, z, rfl⟩
  · simp [moveLast]
  · have hlast : (xs ++ a :: zs.concat z).getLast? = some z := by
      rw [List.concat_eq_append, ← List.cons_append, ← List.append_assoc, List.getLast?_concat]
    have hset : (xs ++ a :: zs.concat z).set xs.length z = (xs ++ z :: zs).concat z := by simp
    rw [moveLast, hlast]
    show ((xs ++ a :: zs.concat z).set xs.length z).dropLast.Perm _
    rw [hset, List.concat_eq_append, List.dropLast_concat, List.concat_eq_append]
    refine List.Perm.append_left xs ?_
    simpa using (List.perm_append_singleton z zs).symm

variable {key}

theorem remove_of_notMem {k : κ} {l : List α} (h : ∀ a ∈ l, key a ≠ k) : remove key k l = l := by
  have hnone : l.findIdx? (fun a => decide (key a = k)) = none :=
    List.findIdx?_eq_none_iff.mpr fun a ha => decide_eq_false (h a ha)
  rw [remove, hnone]

/-- A record under the key splits the table; without the record, the rest is the new table. -/
theorem remove_perm {k : κ} {l : List α} (h : ∃ a ∈ l, key a = k) :
    ∃ xs a ys, l = xs ++ a :: ys ∧ key a = k ∧ (remove key k l).Perm (xs ++ ys) := by
  obtain ⟨b, hb, hbk⟩ := h
  cases hi : l.findIdx? (fun a => decide (key a = k)) with
  | none => exact absurd hbk (of_decide_eq_false (List.findIdx?_eq_none_iff.mp hi b hb))
  | some i =>
    obtain ⟨hlt, hkey, _⟩ := List.findIdx?_eq_some_iff_getElem.mp hi
    have hsplit : l = l.take i ++ l[i] :: l.drop (i + 1) := by
      rw [List.getElem_cons_drop, List.take_append_drop]
    have hlen : (l.take i).length = i := by simp; omega
    refine ⟨l.take i, l[i], l.drop (i + 1), hsplit, of_decide_eq_true hkey, ?_⟩
    have hperm := moveLast_perm (l.take i) l[i] (l.drop (i + 1))
    rw [hlen, ← hsplit] at hperm
    rwa [remove, hi]

variable {l : List α} {k : κ}

/-! ## 3. Tables with distinct keys -/

theorem Distinct.remove (h : Distinct key l) (k : κ) : Distinct key (remove key k l) := by
  by_cases hk : ∃ a ∈ l, key a = k
  · obtain ⟨xs, a, ys, rfl, _, hp⟩ := remove_perm hk
    have hsub : (xs ++ ys).Sublist (xs ++ a :: ys) :=
      List.Sublist.append_left (List.sublist_cons_self a ys) xs
    exact (hp.map key).nodup_iff.mpr (h.sublist (hsub.map key))
  · rwa [remove_of_notMem fun a ha hka => hk ⟨a, ha, hka⟩]

/-- **Removal takes exactly the key.** -/
theorem mem_remove (h : Distinct key l) {a : α} : a ∈ remove key k l ↔ a ∈ l ∧ key a ≠ k := by
  by_cases hk : ∃ a ∈ l, key a = k
  · obtain ⟨xs, b, ys, rfl, hb, hp⟩ := remove_perm hk
    have hne : ∀ c ∈ xs ++ ys, key c ≠ k := by
      have hd : Distinct key (b :: (xs ++ ys)) :=
        (List.perm_middle.map key).nodup_iff.mp h
      intro c hc hck
      exact (List.nodup_cons.mp hd).1 (List.mem_map.mpr ⟨c, hc, by rw [hck, hb]⟩)
    rw [hp.mem_iff]
    constructor
    · intro ha
      exact ⟨by simp only [List.mem_append, List.mem_cons] at ha ⊢; tauto, hne a ha⟩
    · rintro ⟨ha, hak⟩
      have hab : a ≠ b := fun e => hak (e ▸ hb)
      simp only [List.mem_append, List.mem_cons] at ha ⊢
      tauto
  · rw [remove_of_notMem fun a ha hka => hk ⟨a, ha, hka⟩]
    exact ⟨fun ha => ⟨ha, fun e => hk ⟨a, ha, e⟩⟩, fun ha => ha.1⟩

theorem lookup_eq_none_iff : lookup key k l = none ↔ ∀ a ∈ l, key a ≠ k := by
  simp [lookup]

theorem lookup_mem {a : α} (h : lookup key k l = some a) : a ∈ l ∧ key a = k :=
  ⟨List.mem_of_find?_eq_some h, by simpa using List.find?_some (show l.find? _ = _ from h)⟩

/-- An update writes over the record it finds. -/
theorem map_update {β : Type} (f : α → β) {a : α} {l : List α}
    (h : ∀ b, lookup key (key a) l = some b → f a = f b) : (update key a l).map f = l.map f := by
  unfold update
  split
  · rfl
  · rename_i i hi
    obtain ⟨hlt, hkey, hbefore⟩ := List.findIdx?_eq_some_iff_getElem.mp hi
    have hfound : lookup key (key a) l = some l[i] :=
      List.find?_eq_some_iff_getElem.mpr ⟨hkey, i, hlt, rfl, fun j hj => by simpa using hbefore j hj⟩
    rw [List.map_set, h _ hfound]
    exact List.ext_getElem (by simp) fun n h₁ h₂ => by
      rw [List.getElem_set]
      split
      · rename_i e
        subst e
        rw [List.getElem_map]
      · rfl

/-- The key of an update finds what was written. -/
theorem lookup_update {a b : α} {l : List α} (h : lookup key (key a) l = some b) :
    lookup key (key a) (update key a l) = some a := by
  unfold update
  split
  · rename_i hnone
    exact absurd (lookup_mem h).2
      (by simpa using List.findIdx?_eq_none_iff.mp hnone b (lookup_mem h).1)
  · rename_i i hi
    obtain ⟨hlt, -, hbefore⟩ := List.findIdx?_eq_some_iff_getElem.mp hi
    refine List.find?_eq_some_iff_getElem.mpr ⟨by simp, i, by simpa using hlt, by simp, fun j hj => ?_⟩
    rw [List.getElem_set_ne (by omega)]
    simpa using hbefore j hj

/-- Every other key finds what it found. -/
theorem lookup_update_ne {a : α} {l : List α} {k : κ} (hk : k ≠ key a) :
    lookup key k (update key a l) = lookup key k l := by
  unfold update
  split
  · rfl
  · rename_i i hi
    obtain ⟨hlt, hkey, -⟩ := List.findIdx?_eq_some_iff_getElem.mp hi
    have hold : key l[i] ≠ k := fun e => hk (e.symm.trans (of_decide_eq_true hkey))
    have hsplit : l = l.take i ++ l[i] :: l.drop (i + 1) := by
      rw [List.getElem_cons_drop, List.take_append_drop]
    rw [List.set_eq_take_append_cons_drop, if_pos hlt]
    conv_rhs => rw [hsplit]
    unfold lookup
    rw [List.find?_append, List.find?_append, List.find?_cons_of_neg (by simpa using hk.symm),
      List.find?_cons_of_neg (by simpa using hold)]

/-- The record that is written over has the same key. -/
theorem map_key_update (a : α) (l : List α) : (update key a l).map key = l.map key :=
  map_update key fun _ h => (lookup_mem h).2.symm

/-- With distinct keys a lookup finds whatever record is under the key. -/
theorem lookup_eq_some_iff (h : Distinct key l) {a : α} :
    lookup key k l = some a ↔ a ∈ l ∧ key a = k := by
  constructor
  · exact lookup_mem
  · rintro ⟨ha, hk⟩
    cases hl : lookup key k l with
    | none => exact absurd hk (lookup_eq_none_iff.mp hl a ha)
    | some b =>
      obtain ⟨hb, hbk⟩ := lookup_mem hl
      rw [List.inj_on_of_nodup_map h hb ha (hbk.trans hk.symm)]

/-- After a removal the key is gone, and every other is where it was. -/
theorem lookup_remove (h : Distinct key l) (k k' : κ) :
    lookup key k' (Table.remove key k l) = if k' = k then none else lookup key k' l := by
  split
  · rename_i e
    exact lookup_eq_none_iff.mpr fun a ha hk => (mem_remove h).mp ha |>.2 (hk.trans e)
  · rename_i hne
    apply Option.ext
    intro a
    rw [lookup_eq_some_iff (h.remove k), lookup_eq_some_iff h, mem_remove h]
    exact ⟨fun ⟨⟨ha, _⟩, hk⟩ => ⟨ha, hk⟩, fun ⟨ha, hk⟩ => ⟨⟨ha, fun e => hne (hk.symm.trans e)⟩, hk⟩⟩

/-- A new record at the end is found under its key alone. -/
theorem lookup_append (l : List α) (a : α) (k : κ) :
    lookup key k (l ++ [a]) = (lookup key k l).or (if key a = k then some a else none) := by
  rw [lookup, lookup, List.find?_append, List.find?_singleton]
  congr 1
  simp

omit [DecidableEq κ] in
theorem Distinct.insert (h : Distinct key l) {a : α} (ha : ∀ b ∈ l, key b ≠ key a) :
    Distinct key (l ++ [a]) := by
  show ((l ++ [a]).map key).Nodup
  rw [List.map_append, List.map_singleton, List.nodup_append]
  refine ⟨h, List.nodup_singleton _, ?_⟩
  intro x hx y hy
  obtain ⟨b, hb, rfl⟩ := List.mem_map.mp hx
  rw [List.mem_singleton.mp hy]
  exact ha b hb

end Table

end Wire
