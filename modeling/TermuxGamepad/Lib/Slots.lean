/-
  File:      TermuxGamepad/Lib/Slots.lean
  Subject:   Sweeps over a fixed table, and runs of a step function (library).

  A C loop `for (i = 0; i < N; ++i) body(i)` over a table of `N` slots is a `sweep`. Three rules
  carry every proof about one:

  * `sweep_inv` -- what each body keeps, the sweep keeps;
  * `sweep_rel` -- a reflexive and transitive relation that holds over each body holds over the
    sweep (frame conditions, growth of a history);
  * `sweep_each` -- where body `i` leaves the view of every other slot alone, the sweep does to
    the view of slot `i` what body `i` does.

  `run` is a step function folded over a list of inputs; `run_inv` is its induction. Where an
  invariant holds only as long as every step meets a condition, `run_throughout` is the induction,
  and `throughout_iff` says that the condition is exact.
-/
import Mathlib.Algebra.GroupWithZero.Nat
import Mathlib.Data.List.FinRange

namespace Wire

variable {β γ : Type} {n : Nat}

/-! ## 1. Sweeps -/

/-- The body at every slot, in order. -/
def sweep (n : Nat) (f : β → Fin n → β) (b : β) : β := (List.finRange n).foldl f b

theorem sweep_inv {P : β → Prop} {f : β → Fin n → β} (hf : ∀ b i, P b → P (f b i)) {b : β}
    (h : P b) : P (sweep n f b) := by
  unfold sweep
  generalize List.finRange n = l
  induction l generalizing b with
  | nil => exact h
  | cons i l ih => exact ih (hf b i h)

theorem sweep_rel {R : β → β → Prop} {f : β → Fin n → β} (hrefl : ∀ b, R b b)
    (htrans : ∀ a b c, R a b → R b c → R a c) (hf : ∀ b i, R b (f b i)) (b : β) :
    R b (sweep n f b) := by
  have h : ∀ (l : List (Fin n)) (b : β), R b (l.foldl f b) := by
    intro l
    induction l with
    | nil => exact hrefl
    | cons i l ih => exact fun b => htrans _ _ _ (hf b i) (ih (f b i))
  exact h _ b

/-- A change that every body commutes with commutes with the sweep. -/
theorem sweep_comm {g : β → β} {f : β → Fin n → β} (h : ∀ b i, f (g b) i = g (f b i)) (b : β) :
    sweep n f (g b) = g (sweep n f b) := by
  unfold sweep
  generalize List.finRange n = l
  induction l generalizing b with
  | nil => rfl
  | cons i l ih => rw [List.foldl_cons, h, ih, List.foldl_cons]

/-- Over a list of distinct slots: the slots outside keep their view, each slot inside has it
    changed by its own body. `I` is what the bodies may rely on and keep. -/
theorem foldl_each {v : β → Fin n → γ} {R : Fin n → γ → γ → Prop} {I : β → Prop}
    {f : β → Fin n → β} (hI : ∀ b i, I b → I (f b i))
    (hother : ∀ b i j, I b → j ≠ i → v (f b i) j = v b j)
    (hself : ∀ b i, I b → R i (v b i) (v (f b i) i)) (l : List (Fin n)) (hl : l.Nodup)
    (b : β) (hb : I b) :
    (∀ j, j ∉ l → v (l.foldl f b) j = v b j) ∧
      ∀ j ∈ l, R j (v b j) (v (l.foldl f b) j) := by
  induction l generalizing b with
  | nil => exact ⟨fun _ _ => rfl, fun _ h => absurd h List.not_mem_nil⟩
  | cons i l ih =>
    obtain ⟨hi, hl'⟩ := List.nodup_cons.mp hl
    obtain ⟨hout, hin⟩ := ih hl' (f b i) (hI b i hb)
    refine ⟨fun j hj => ?_, fun j hj => ?_⟩
    · obtain ⟨hji, hjl⟩ := not_or.mp (mt List.mem_cons.mpr hj)
      exact (hout j hjl).trans (hother b i j hb hji)
    · by_cases hji : j = i
      · subst hji
        rw [List.foldl_cons, hout j hi]
        exact hself b j hb
      · have hjl : j ∈ l := (List.mem_cons.mp hj).resolve_left hji
        have h := hin j hjl
        rw [hother b i j hb hji] at h
        exact h

theorem sweep_each {v : β → Fin n → γ} {R : Fin n → γ → γ → Prop} {I : β → Prop}
    {f : β → Fin n → β} (hI : ∀ b i, I b → I (f b i))
    (hother : ∀ b i j, I b → j ≠ i → v (f b i) j = v b j)
    (hself : ∀ b i, I b → R i (v b i) (v (f b i) i)) {b : β} (hb : I b) (i : Fin n) :
    R i (v b i) (v (sweep n f b) i) :=
  (foldl_each hI hother hself _ (List.nodup_finRange n) b hb).2 i (List.mem_finRange i)

/-! ## 2. Runs -/

variable {σ ι : Type}

/-- The state after a list of inputs. -/
def run (step : σ → ι → σ) (s : σ) (is : List ι) : σ := is.foldl step s

@[simp] theorem run_nil (step : σ → ι → σ) (s : σ) : run step s [] = s := rfl

@[simp] theorem run_cons (step : σ → ι → σ) (s : σ) (i : ι) (is : List ι) :
    run step s (i :: is) = run step (step s i) is := rfl

theorem run_append (step : σ → ι → σ) (s : σ) (is js : List ι) :
    run step s (is ++ js) = run step (run step s is) js := List.foldl_append

theorem run_concat (step : σ → ι → σ) (s : σ) (is : List ι) (i : ι) :
    run step s (is ++ [i]) = step (run step s is) i := by
  rw [run_append, run_cons, run_nil]

/-- What the start has and every step keeps, every run has. -/
theorem run_inv {P : σ → Prop} {step : σ → ι → σ} (hstep : ∀ s i, P s → P (step s i)) {s : σ}
    (h : P s) (is : List ι) : P (run step s is) := by
  induction is generalizing s with
  | nil => exact h
  | cons i is ih => exact ih (hstep s i h)

/-! ## 3. Conditions on the steps of a run -/

/-- Every step of the run meets the condition, in the state it finds. -/
def Throughout (step : σ → ι → σ) (C : σ → ι → Prop) (s : σ) (is : List ι) : Prop :=
  ∀ before i after, is = before ++ i :: after → C (run step s before) i

variable {step : σ → ι → σ} {C : σ → ι → Prop} {s : σ} {is js : List ι}

theorem throughout_nil : Throughout step C s [] := fun before _ _ h => by cases before <;> cases h

theorem throughout_cons {i : ι} :
    Throughout step C s (i :: is) ↔ C s i ∧ Throughout step C (step s i) is := by
  constructor
  · intro h
    exact ⟨h [] i is rfl, fun before j after hj => h (i :: before) j after (by rw [hj]; rfl)⟩
  · rintro ⟨hi, h⟩ before j after heq
    cases before with
    | nil =>
      obtain ⟨rfl, rfl⟩ := List.cons.inj heq
      exact hi
    | cons k before =>
      obtain ⟨rfl, rfl⟩ := List.cons.inj heq
      exact h before j after rfl

theorem Throughout.front (h : Throughout step C s (is ++ js)) : Throughout step C s is :=
  fun before i after hi => h before i (after ++ js) (by rw [hi, List.append_assoc]; rfl)

instance decidableThroughout [∀ s i, Decidable (C s i)] :
    ∀ (is : List ι) (s : σ), Decidable (Throughout step C s is)
  | [], _ => isTrue throughout_nil
  | i :: is, s =>
    haveI := decidableThroughout is (step s i)
    decidable_of_iff _ throughout_cons.symm

/-- What the start has and every step that meets the condition keeps. -/
theorem run_throughout {P : σ → Prop} (hstep : ∀ s i, P s → C s i → P (step s i)) (h : P s)
    (hC : Throughout step C s is) : P (run step s is) := by
  induction is generalizing s with
  | nil => exact h
  | cons i is ih =>
    obtain ⟨hi, his⟩ := throughout_cons.mp hC
    exact ih (hstep s i h hi) his

/-- **A budget bounds a run**: where every step spends one and an input can bring some, a run is no
    longer than the budget at its start and what its inputs brought. -/
theorem throughout_length (due : σ → Nat) (feeds : ι → Nat)
    (hstep : ∀ s i, C s i → due (step s i) + 1 ≤ due s + feeds i) (hC : Throughout step C s is) :
    is.length + due (run step s is) ≤ due s + (is.map feeds).sum := by
  induction is generalizing s with
  | nil => exact Nat.le_of_eq (Nat.zero_add (due s))
  | cons i is ih =>
    obtain ⟨hi, his⟩ := throughout_cons.mp hC
    have hfirst := hstep s i hi
    have hrest := ih his
    rw [run_cons, List.length_cons, List.map_cons, List.sum_cons]
    omega

/-- **An exact condition**: where the steps that meet it keep an invariant that has the property,
    and a step that does not meet it loses the property, the property holds all along the run
    exactly if every step meets the condition. `F` is what the environment promises. -/
theorem throughout_iff {F : σ → ι → Prop} {P Q : σ → Prop} (hQ : ∀ s, P s → Q s)
    (hgood : ∀ s i, P s → F s i → C s i → P (step s i))
    (hbad : ∀ s i, P s → F s i → ¬C s i → ¬Q (step s i)) (h : P s)
    (hF : Throughout step F s is) :
    (∀ before after, is = before ++ after → Q (run step s before)) ↔ Throughout step C s is := by
  constructor
  · induction is generalizing s with
    | nil => exact fun _ => throughout_nil
    | cons i is ih =>
      intro hall
      obtain ⟨hi, his⟩ := throughout_cons.mp hF
      have hC : C s i := by
        by_contra hn
        exact hbad s i h hi hn (hall [i] is rfl)
      refine throughout_cons.mpr ⟨hC, ih (hgood s i h hi hC) his fun before after he => ?_⟩
      exact hall (i :: before) after (by rw [he]; rfl)
  · rintro hC before after rfl
    have hboth : Throughout step (fun s i => F s i ∧ C s i) s before :=
      fun b i a he => ⟨hF.front b i a he, hC.front b i a he⟩
    exact hQ _ (run_throughout (P := P) (fun s i hs hi => hgood s i hs hi.1 hi.2) h hboth)

end Wire
