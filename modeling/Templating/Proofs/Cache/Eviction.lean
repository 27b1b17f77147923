import Mathlib.Data.List.Basic
import Mathlib.Data.List.Nodup
import Mathlib.Logic.Function.Iterate
import Templating.Cache.Basic

/-!
What a scan for victims leaves.

A scan changes nothing but the list.  It leaves the entries before its index as they are, and
of the others it takes the first evictable ones off, as many as there are settled slots beyond
the capacity.
-/

namespace Templating.Cache

variable {L : Type u}

/-- The entries left over when the first `count` of those that satisfy `victim` are gone. -/
def spared (victim : α → Bool) (count : Nat) (entries : List α) : List α :=
  (List.eraseP victim)^[count] entries

@[simp]
theorem spared_zero (victim : α → Bool) (entries : List α) :
    spared victim 0 entries = entries := rfl

@[simp]
theorem spared_nil (victim : α → Bool) (count : Nat) : spared victim count [] = [] := by
  induction count with
  | zero => rfl
  | succ count ih => simpa [spared] using ih

theorem spared_cons_of_victim {victim : α → Bool} {entry : α} (isVictim : victim entry = true)
    (count : Nat) (rest : List α) :
    spared victim (count + 1) (entry :: rest) = spared victim count rest := by
  simp [spared, isVictim]

theorem spared_cons_of_not_victim {victim : α → Bool} {entry : α} (isSpared : victim entry = false)
    (count : Nat) (rest : List α) :
    spared victim count (entry :: rest) = entry :: spared victim count rest := by
  induction count generalizing rest with
  | zero => rfl
  | succ count ih =>
      simp only [spared, Function.iterate_succ_apply] at ih ⊢
      rw [List.eraseP_cons_of_neg (by simp [isSpared])]
      exact ih (rest.eraseP victim)

theorem spared_sublist (victim : α → Bool) (count : Nat) (entries : List α) :
    (spared victim count entries).Sublist entries := by
  induction count generalizing entries with
  | zero => exact List.Sublist.refl entries
  | succ count ih => exact (ih (entries.eraseP victim)).trans List.eraseP_sublist

theorem spared_append {victim : α → Bool} {front back : List α} {count : Nat}
    (victims : ∀ entry ∈ front, victim entry = true) (enough : count ≤ front.length) :
    spared victim count (front ++ back) = (front ++ back).drop count := by
  induction front generalizing count with
  | nil =>
      have none : count = 0 := by simpa using enough
      subst count
      rfl
  | cons entry rest ih =>
      cases count with
      | zero => rfl
      | succ count =>
          rw [List.cons_append, spared_cons_of_victim (victims entry (by simp))]
          exact ih (fun other member => victims other (by simp [member])) (by simpa using enough)

def victim (cache : Cache L) (entry : String × SlotId) : Bool :=
  cache.isEvictable entry.2

theorem scanStep_cases {capacity : Nat} {cache next : Cache L} {scan nextScan : Scan}
    {evicted : Option String}
    (stepped : cache.scanStep capacity scan = some (nextScan, next, evicted)) :
    ∃ entry, cache.entries[scan.index]? = some entry ∧ capacity < scan.settled ∧
      ((cache.victim entry = true ∧ nextScan = { scan with settled := scan.settled - 1 } ∧
          next = { cache with entries := cache.entries.eraseIdx scan.index }) ∨
        (cache.victim entry = false ∧ nextScan = { scan with index := scan.index + 1 } ∧
          next = cache)) := by
  simp only [scanStep] at stepped
  split at stepped
  · contradiction
  · next key id found =>
      split at stepped
      · contradiction
      · next many =>
          refine ⟨(key, id), found, by omega, ?_⟩
          split at stepped
          · next evictable =>
              simp only [Option.some.injEq, Prod.mk.injEq] at stepped
              exact .inl ⟨evictable, stepped.1.symm, stepped.2.1.symm⟩
          · next kept =>
              simp only [Option.some.injEq, Prod.mk.injEq] at stepped
              exact .inr ⟨by simpa [victim] using kept, stepped.1.symm, stepped.2.1.symm⟩

theorem scanStep_eq_none_iff {capacity : Nat} {cache : Cache L} {scan : Scan} :
    cache.scanStep capacity scan = none ↔
      cache.entries.length ≤ scan.index ∨ scan.settled ≤ capacity := by
  unfold scanStep
  split
  · next beyond => simp [List.getElem?_eq_none_iff.mp beyond]
  · next found =>
      have within : scan.index < cache.entries.length := (List.getElem?_eq_some_iff.mp found).1
      split
      · next few => simp [few]
      · next many => split <;> simp <;> omega

/-- A scan spares the entries before its index and takes victims off the rest. -/
theorem evict_eq (capacity : Nat) (cache : Cache L) (scan : Scan) :
    (cache.evict capacity scan).1 =
      { cache with
        entries := cache.entries.take scan.index ++
          spared cache.victim (scan.settled - capacity) (cache.entries.drop scan.index) } := by
  fun_induction evict capacity cache scan with
  | case1 cache scan stepped =>
      rcases scanStep_eq_none_iff.mp stepped with ended | few
      · simp [List.drop_eq_nil_of_le ended, List.take_of_length_le ended]
      · simp [Nat.sub_eq_zero_of_le few]
  | case2 cache scan nextScan next evicted stepped last more evicts ih =>
      rw [evicts] at ih
      obtain ⟨entry, found, many, taken | passed⟩ := scanStep_cases stepped
      · obtain ⟨isVictim, rfl, rfl⟩ := taken
        obtain ⟨within, rfl⟩ := List.getElem?_eq_some_iff.mp found
        have excess : scan.settled - capacity = (scan.settled - 1 - capacity) + 1 := by omega
        have front : (cache.entries.take scan.index).length = scan.index :=
          List.length_take_of_le (Nat.le_of_lt within)
        rw [ih, List.drop_eq_getElem_cons within, excess, spared_cons_of_victim isVictim]
        simp only [List.eraseIdx_eq_take_drop_succ, List.take_left' front, List.drop_left' front]
        rfl
      · obtain ⟨isSpared, rfl, rfl⟩ := passed
        obtain ⟨within, rfl⟩ := List.getElem?_eq_some_iff.mp found
        rw [ih, List.drop_eq_getElem_cons within, spared_cons_of_not_victim isSpared]
        simp only [List.take_add_one, found, Option.toList_some, List.append_assoc,
          List.singleton_append]

def kept (cache : Cache L) : List (String × SlotId) :=
  match cache.capacity with
  | none => cache.entries
  | some capacity => spared cache.victim (cache.settledCount - capacity) cache.entries

theorem enforceCapacity_eq (cache : Cache L) :
    cache.enforceCapacity.1 = { cache with entries := cache.kept } := by
  unfold enforceCapacity kept
  cases bound : cache.capacity with
  | none => simp [← bound]
  | some capacity => simp [evict_eq, ← bound]

theorem kept_eq_self {cache : Cache L}
    (few : ∀ bound, cache.capacity = some bound → cache.entries.length ≤ bound) :
    cache.kept = cache.entries := by
  unfold kept
  cases capacity : cache.capacity with
  | none => rfl
  | some bound =>
      have none : cache.settledCount - bound = 0 :=
        Nat.sub_eq_zero_of_le (Nat.le_trans List.countP_le_length (few bound capacity))
      simp only [none, spared_zero]

theorem kept_sublist (cache : Cache L) : cache.kept.Sublist cache.entries := by
  unfold kept
  split
  · exact List.Sublist.refl _
  · exact spared_sublist _ _ _

end Templating.Cache
