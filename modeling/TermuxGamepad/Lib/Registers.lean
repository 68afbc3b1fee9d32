/-
  File:      TermuxGamepad/Lib/Registers.lean
  Subject:   Replicas kept by reports (library).

  A source holds a value in each of its registers and reports, now and then, a register's value
  under the register's name. A reader that keeps the latest report of each name has a replica.
  `Tells v rs` says the reports show the values `v`; `Carries v ds v'` says the reports `ds`
  account for the change from `v` to `v'`. Telling reports followed by carrying ones tell again
  (`Tells.carry`); that is all a source with incremental reports has to keep up. `Follows hist bs`
  says so of every batch of reports and the history of the values.
-/
import Mathlib.Data.List.Induction
import Mathlib.Logic.Function.Basic

namespace Wire

variable {κ ν ι : Type} [DecidableEq κ]

/-- The latest report under a name. -/
def latest (rs : List (κ × ν)) (k : κ) : Option ν :=
  (rs.filter (fun r => decide (r.1 = k))).getLast?.map Prod.snd

@[simp] theorem latest_nil (k : κ) : latest ([] : List (κ × ν)) k = none := rfl

theorem latest_append (rs ds : List (κ × ν)) (k : κ) :
    latest (rs ++ ds) k = (latest ds k).or (latest rs k) := by
  unfold latest
  rw [List.filter_append, List.getLast?_append]
  cases (ds.filter (fun r => decide (r.1 = k))).getLast? <;> simp

theorem latest_concat (rs : List (κ × ν)) (k' : κ) (x : ν) (k : κ) :
    latest (rs ++ [(k', x)]) k = if k' = k then some x else latest rs k := by
  rw [latest_append]
  by_cases h : k' = k <;> simp [latest, h]

/-- The reports show the values. -/
def Tells (name : ι → κ) (v : ι → ν) (rs : List (κ × ν)) : Prop :=
  ∀ i, latest rs (name i) = some (v i)

/-- The reports account for the change of the values. -/
def Carries (name : ι → κ) (v : ι → ν) (ds : List (κ × ν)) (v' : ι → ν) : Prop :=
  ∀ i, (latest ds (name i)).getD (v i) = v' i

variable {name : ι → κ} {v v' v'' : ι → ν} {rs ds ds' : List (κ × ν)}

theorem Carries.refl (name : ι → κ) (v : ι → ν) : Carries name v [] v := fun _ => rfl

theorem Tells.carry (h : Tells name v rs) (hd : Carries name v ds v') :
    Tells name v' (rs ++ ds) := by
  intro i
  rw [latest_append, ← hd i, h i]
  cases latest ds (name i) <;> rfl

theorem Carries.trans (h : Carries name v ds v') (h' : Carries name v' ds' v'') :
    Carries name v (ds ++ ds') v'' := by
  intro i
  rw [latest_append, ← h' i, ← h i]
  cases latest ds' (name i) <;> rfl

/-- A report of every register tells, whatever came before. -/
theorem tells_map (hname : Function.Injective name) (v : ι → ν) {is : List ι}
    (his : ∀ i, i ∈ is) (rs : List (κ × ν)) :
    Tells name v (rs ++ is.map fun i => (name i, v i)) := by
  intro i
  have hmem : (name i, v i) ∈
      (is.map fun i => (name i, v i)).filter (fun r => decide (r.1 = name i)) :=
    List.mem_filter.mpr ⟨List.mem_map_of_mem (his i), by simp⟩
  obtain ⟨r, hr⟩ : ∃ r, ((is.map fun i => (name i, v i)).filter
      (fun r => decide (r.1 = name i))).getLast? = some r :=
    ⟨_, List.getLast?_eq_some_getLast (List.ne_nil_of_mem hmem)⟩
  obtain ⟨hr', hname'⟩ := List.mem_filter.mp (List.mem_of_getLast? hr)
  obtain ⟨j, _, rfl⟩ := List.mem_map.mp hr'
  obtain rfl : j = i := hname (of_decide_eq_true hname')
  rw [latest_append, latest, hr]
  rfl

/-- A register changes and is reported. -/
theorem Carries.report [DecidableEq ι] (hname : Function.Injective name) (v : ι → ν) (i : ι)
    (x : ν) : Carries name v [(name i, x)] (Function.update v i x) := by
  intro j
  by_cases h : j = i
  · subst h
    simp [latest]
  · simp [latest, h, hname.ne (Ne.symm h)]

/-- A report under no register's name. -/
theorem Carries.mute (v : ι → ν) {k : κ} (hk : ∀ i, name i ≠ k) (x : ν) :
    Carries name v [(k, x)] v := by
  intro i
  simp [latest, (hk i).symm]

/-! A source that changes has a history of values. -/

/-- The batches of reports follow a history: at any time the values of that time may be reported, by
    one more batch, and nothing else ever is. -/
inductive Follows (name : ι → κ) : List (ι → ν) → List (List (κ × ν)) → Prop where
  | start : Follows name [] []
  | next {hist bs} (v : ι → ν) (h : Follows name hist bs) : Follows name (hist ++ [v]) bs
  | report {hist bs} {v : ι → ν} (b : List (κ × ν)) (h : Follows name (hist ++ [v]) bs)
      (ht : Tells name v (bs ++ [b]).flatten) : Follows name (hist ++ [v]) (bs ++ [b])

/-- Who reports nothing follows any history. -/
theorem Follows.silent (name : ι → κ) (hist : List (ι → ν)) : Follows name hist [] := by
  induction hist using List.reverseRecOn with
  | nil => exact .start
  | append_singleton hist v ih => exact .next v ih

/-- **Whoever follows a history** has, behind every batch, the values of a moment of it; and the
    moments come in order. -/
theorem Follows.moments {hist : List (ι → ν)} {bs : List (List (κ × ν))} (h : Follows name hist bs) :
    ∃ moment : Nat → Nat, (∀ n m, n ≤ m → m < bs.length → moment n ≤ moment m) ∧
      ∀ n, n < bs.length → ∃ v, hist[moment n]? = some v ∧ Tells name v (bs.take (n + 1)).flatten := by
  induction h with
  | start => exact ⟨fun _ => 0, fun _ _ _ _ => Nat.le_refl 0, fun n hn => absurd hn (Nat.not_lt_zero n)⟩
  | next v _ ih =>
    obtain ⟨moment, hmono, hvalues⟩ := ih
    refine ⟨moment, hmono, fun n hn => ?_⟩
    obtain ⟨x, hx, ht⟩ := hvalues n hn
    exact ⟨x, List.getElem?_append_left (List.getElem?_eq_some_iff.mp hx).1 ▸ hx, ht⟩
  | @report hist bs v b _ ht ih =>
    obtain ⟨moment, hmono, hvalues⟩ := ih
    have hlen : ∀ n, n < (bs ++ [b]).length → n = bs.length ∨ n < bs.length := fun n hn => by
      rw [List.length_append, List.length_singleton] at hn
      omega
    -- the batch just reported has the last moment
    refine ⟨Function.update moment bs.length hist.length, fun n m hnm hm => ?_, fun n hn => ?_⟩
    · rcases hlen m hm with rfl | hm
      · rw [Function.update_self]
        rcases Nat.lt_or_eq_of_le hnm with hn | rfl
        · rw [Function.update_of_ne (Nat.ne_of_lt hn)]
          obtain ⟨x, hx, -⟩ := hvalues n hn
          have hlt := (List.getElem?_eq_some_iff.mp hx).1
          rw [List.length_append, List.length_singleton] at hlt
          omega
        · exact Nat.le_of_eq (Function.update_self ..)
      · rw [Function.update_of_ne (Nat.ne_of_lt hm),
          Function.update_of_ne (Nat.ne_of_lt (Nat.lt_of_le_of_lt hnm hm))]
        exact hmono n m hnm hm
    · rcases hlen n hn with rfl | hn
      · rw [Function.update_self]
        refine ⟨v, List.getElem?_concat_length, ?_⟩
        rwa [List.take_of_length_le (by simp)]
      · rw [Function.update_of_ne (Nat.ne_of_lt hn)]
        obtain ⟨x, hx, hx'⟩ := hvalues n hn
        exact ⟨x, hx, by rwa [List.take_append_of_le_length hn]⟩

end Wire
