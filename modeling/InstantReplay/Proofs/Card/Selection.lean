import InstantReplay.Proofs.Card.Calls
import Mathlib.Data.List.Induction
import Mathlib.Data.List.MinMax

/-!
# The plane that is chosen

When no plane is named, the first of the largest planes that can be captured is chosen. Planes that
cannot be captured have no part in the choice (`PlaneSession.foldl_better`), wherever they stand
and whatever the kernel says about them (`PlaneSession.exists_looks`).
-/

namespace InstantReplay.PlaneSession

variable {κ : Type} {candidates : List Candidate} {best : Candidate}

/-- The candidate is larger than those before it and no smaller than those behind it. -/
def FirstLargest (candidates : List Candidate) (best : Candidate) : Prop :=
  ∃ before behind, candidates = before ++ best :: behind ∧
    (∀ candidate ∈ before, candidate.area < best.area) ∧
    ∀ candidate ∈ behind, candidate.area ≤ best.area

theorem FirstLargest.argmax_eq (h : FirstLargest candidates best) :
    candidates.argmax Candidate.area = some best := by
  obtain ⟨before, behind, rfl, hbefore, hbehind⟩ := h
  have hbest : best ∉ before := fun hmem => lt_irrefl _ (hbefore best hmem)
  rw [List.argmax_eq_some_iff]
  refine ⟨by simp, ?_, ?_⟩
  · intro candidate hmem
    rw [List.mem_append, List.mem_cons] at hmem
    rcases hmem with hmem | rfl | hmem
    · exact (hbefore candidate hmem).le
    · exact le_rfl
    · exact hbehind candidate hmem
  · intro candidate _ hle
    have hlater : candidate ∉ before := fun hmem => absurd (hbefore candidate hmem) (not_lt.2 hle)
    rw [List.idxOf_append_of_notMem hbest, List.idxOf_append_of_notMem hlater, List.idxOf_cons_self]
    omega

theorem firstLargest_of_argmax (h : candidates.argmax Candidate.area = some best) :
    FirstLargest candidates best := by
  obtain ⟨hmem, hmax, hfirst⟩ := List.argmax_eq_some_iff.1 h
  obtain ⟨before, behind, rfl, hbest⟩ := List.eq_append_cons_of_mem hmem
  refine ⟨before, behind, rfl, ?_, ?_⟩
  · intro candidate hcandidate
    by_contra hle
    have hindex := hfirst candidate (List.mem_append_left _ hcandidate) (not_lt.1 hle)
    have hlt := List.idxOf_lt_length_iff.2 hcandidate
    rw [List.idxOf_append_of_notMem hbest, List.idxOf_append_of_mem hcandidate] at hindex
    omega
  · intro candidate hcandidate
    exact hmax candidate (List.mem_append_right _ (List.mem_cons_of_mem _ hcandidate))

/-- Looking at one plane after the other keeps the first of the largest. -/
theorem foldl_better (candidates : List (Option Candidate)) :
    candidates.foldl better none = (candidates.filterMap id).argmax Candidate.area := by
  induction candidates using List.reverseRecOn with
  | nil => rfl
  | append_singleton candidates candidate ih =>
    rw [List.foldl_concat, ih, List.filterMap_append]
    cases candidate with
    | none =>
      change better _ none = (candidates.filterMap id ++ []).argmax Candidate.area
      rw [List.append_nil]
      cases (candidates.filterMap id).argmax Candidate.area <;> rfl
    | some candidate =>
      change better _ (some candidate) =
        (candidates.filterMap id ++ [candidate]).argmax Candidate.area
      rw [List.argmax_concat]
      cases (candidates.filterMap id).argmax Candidate.area <;> rfl

/-- The failure when there is no plane to choose. -/
def noPlane : Failure := .capture "No active plane found"

/-- What the choice among the planes that can be captured comes to. -/
def choice (candidates : List Candidate) : Except Failure UInt32 :=
  match candidates.argmax Candidate.area with
  | some best => .ok best.plane
  | none => .error noPlane

theorem choice_eq_ok_iff {plane : UInt32} : choice candidates = .ok plane ↔
    ∃ best, FirstLargest candidates best ∧ best.plane = plane := by
  constructor
  · intro h
    rw [choice] at h
    cases hbest : candidates.argmax Candidate.area with
    | none =>
      rw [hbest] at h
      cases h
    | some best =>
      rw [hbest] at h
      exact ⟨best, firstLargest_of_argmax hbest, Except.ok.inj h⟩
  · rintro ⟨best, hbest, rfl⟩
    rw [choice, hbest.argmax_eq]

theorem choice_eq_error_iff {failure : Failure} :
    choice candidates = .error failure ↔ candidates = [] ∧ failure = noPlane := by
  rw [← List.argmax_eq_none (f := Candidate.area), choice]
  cases candidates.argmax Candidate.area with
  | none => simp [eq_comm]
  | some best => simp

/-- The number of pixels of a plane is less than 2⁶⁴. -/
theorem Look.area_lt (look : Look) {candidate : Candidate} (h : look.candidate = some candidate) :
    candidate.area < 2 ^ 64 := by
  obtain ⟨plane, calls, found, hlooks⟩ := look
  obtain rfl : found = some candidate := h
  cases hlooks with
  | @usable _ _ _ reply =>
    have hwidth := reply.width.toNat_lt
    have hheight := reply.height.toNat_lt
    calc reply.width.toNat * reply.height.toNat < 2 ^ 32 * 2 ^ 32 :=
          Nat.mul_lt_mul'' hwidth hheight
      _ = 2 ^ 64 := by norm_num

theorem makes_pick (card : Card) (driver : CardDriver κ) (planes : List UInt32) :
    card.Makes (pick driver.recorded card planes) fun result calls =>
      ∃ looks : List Look, looks.map (·.plane) = planes ∧ calls = looks.flatMap (·.calls) ∧
        result = choice (looks.filterMap (·.candidate)) := by
  apply (makes_pickFrom card driver none planes).bind_ok
  rintro value front ⟨looks, hplanes, rfl, hvalue⟩
  rw [foldl_better, List.filterMap_map] at hvalue
  change value = (looks.filterMap (·.candidate)).argmax Candidate.area at hvalue
  cases value with
  | none =>
    apply Card.makes_throw
    rw [List.append_nil]
    exact ⟨looks, hplanes, rfl, by rw [choice, ← hvalue]; rfl⟩
  | some best =>
    apply Card.makes_pure
    rw [List.append_nil]
    exact ⟨looks, hplanes, rfl, by rw [choice, ← hvalue]⟩

/-- **The first of the largest planes is chosen.** Every plane is looked at in turn. What the choice
comes to is decided by those that can be captured alone: it is the first one of the largest, whose
pixels can be counted in 64 bits, and there is none only if no plane can be captured. -/
theorem exists_looks (driver : CardDriver κ) (card : Card) (planes : List UInt32) (kernel : κ) :
    ∃ looks : List Look, looks.map (·.plane) = planes ∧
      card.Asks (fun _ driver => pick driver card planes) driver kernel
        (looks.flatMap (·.calls)) ∧
      ∃ outcome, ((pick driver card planes).runOn kernel).1 = outcome ∧
        outcome = choice (looks.filterMap (·.candidate)) ∧
        (∀ plane, outcome = .ok plane ↔
          ∃ best, FirstLargest (looks.filterMap (·.candidate)) best ∧ best.plane = plane) ∧
        ((∃ failure, outcome = .error failure) ↔ ∀ look ∈ looks, look.candidate = none) ∧
        ∀ candidate ∈ looks.filterMap (·.candidate), candidate.area < 2 ^ 64 := by
  obtain ⟨calls, hasks, looks, hplanes, rfl, houtcome⟩ :=
    Card.exists_asks (fun _ driver => pick driver card planes) (makes_pick card driver planes)
      (mirrors_pick driver card planes) kernel
  refine ⟨looks, hplanes, hasks, _, houtcome, rfl, fun plane => choice_eq_ok_iff, ?_, ?_⟩
  · simp [choice_eq_error_iff]
  · intro candidate hcandidate
    obtain ⟨look, -, hlook⟩ := List.mem_filterMap.1 hcandidate
    exact look.area_lt hlook

end InstantReplay.PlaneSession
