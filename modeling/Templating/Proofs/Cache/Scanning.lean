import Templating.Proofs.Cache.Eviction

/-!
How a scan for victims comes to its end.

A scan stands before the entries that it has yet to look at.  Of the entries behind it only those that can
be evicted are gone, and its count is that of the settled slots which are still listed.  `Scanned` states
this of each point of a scan; at the last point it tells which slots are evicted, and how many.
-/

namespace Templating.Cache

variable {L : Type u}

/-- The points that a scan comes to, each with the steps up to it and the keys evicted by then. -/
inductive Scans (capacity : Nat) (cache : Cache L) : Nat → Scan → Cache L → List String → Prop where
  | start : Scans capacity cache 0 ⟨0, cache.settledCount⟩ cache []
  | step (scans : Scans capacity cache steps scan reached gone)
      (stepped : reached.scanStep capacity scan = some (nextScan, next, evicted)) :
      Scans capacity cache (steps + 1) nextScan next (gone ++ evicted.toList)

variable {cache reached next : Cache L} {front back : List (String × SlotId)}
  {capacity steps : Nat} {scan nextScan : Scan} {gone : List String}

def victims (cache : Cache L) : List (String × SlotId) :=
  cache.entries.filter cache.victim

/-- How many slots are evicted to keep a capacity: as many as are settled beyond it, if there are so many
that nobody holds. -/
def surplus (cache : Cache L) (capacity : Nat) : Nat :=
  min cache.victims.length (cache.settledCount - capacity)

/-- The cache that is left when all victims in front of the others have been evicted. -/
def without (cache : Cache L) (front back : List (String × SlotId)) : Cache L :=
  { cache with entries := front.filter (fun entry => !cache.victim entry) ++ back }

/-- A scan has come past the entries in `front`, and those in `back` are yet to come. -/
structure Scanned (capacity : Nat) (cache : Cache L) (front back : List (String × SlotId)) (scan : Scan)
    (reached : Cache L) (gone : List String) : Prop where
  entries : cache.entries = front ++ back
  reached : reached = cache.without front back
  index : scan.index = (front.filter fun entry => !cache.victim entry).length
  settled : scan.settled + (front.filter cache.victim).length = cache.settledCount
  excess : (front.filter cache.victim).length ≤ cache.settledCount - capacity
  gone : gone = (front.filter cache.victim).map Prod.fst

theorem isSettled_of_victim {entry : String × SlotId} (isVictim : cache.victim entry = true) :
    (cache.slot entry.2).isSettled = true :=
  (Bool.and_eq_true_iff.mp isVictim).1

theorem isHeld_of_not_victim {entry : String × SlotId} (isSpared : cache.victim entry = false)
    (settled : (cache.slot entry.2).isSettled = true) : cache.isHeld entry.2 = true := by
  simpa [victim, isEvictable, settled] using isSpared

/-- A step of a scan gives the key of the slot that it evicts. -/
theorem scanStep_evicted {evicted : Option String} {entry : String × SlotId}
    (stepped : cache.scanStep capacity scan = some (nextScan, next, evicted))
    (here : cache.entries[scan.index]? = some entry) :
    evicted = if cache.victim entry then some entry.1 else none := by
  simp only [scanStep, here] at stepped
  split at stepped
  · contradiction
  · split at stepped
    · next evictable =>
        cases stepped
        exact (if_pos evictable).symm
    · next kept =>
        cases stepped
        exact (if_neg kept).symm

/-- Each eviction takes one settled slot off the list. -/
theorem settledCount_without (cache : Cache L) (front back : List (String × SlotId)) :
    (cache.without front back).settledCount + (front.filter cache.victim).length =
      (front ++ back).countP fun entry => (cache.slot entry.2).isSettled := by
  change List.countP (fun entry => (cache.slot entry.2).isSettled) (_ ++ back) + _ = _
  induction front with
  | nil => rfl
  | cons entry rest ih =>
      cases isVictim : cache.victim entry with
      | true =>
          have settled := isSettled_of_victim isVictim
          simp only [List.filter_cons, isVictim, Bool.not_true, Bool.false_eq_true, if_false, if_true,
            List.length_cons, List.cons_append, List.countP_cons, settled]
          omega
      | false =>
          simp only [List.filter_cons, isVictim, Bool.not_false, Bool.false_eq_true, if_false, if_true,
            List.cons_append, List.countP_cons]
          omega

namespace Scanned

theorem start (capacity : Nat) (cache : Cache L) :
    Scanned capacity cache [] cache.entries ⟨0, cache.settledCount⟩ cache [] where
  entries := rfl
  reached := rfl
  index := rfl
  settled := rfl
  excess := Nat.zero_le _
  gone := rfl

theorem settled_eq (scanned : Scanned capacity cache front back scan reached gone) :
    scan.settled = reached.settledCount := by
  have all : (cache.without front back).settledCount + (front.filter cache.victim).length =
      cache.settledCount := by
    rw [settledCount_without, ← scanned.entries, settledCount]
  have settled := scanned.settled
  rw [scanned.reached]
  omega

theorem index_le (scanned : Scanned capacity cache front back scan reached gone) :
    scan.index ≤ reached.entries.length := by
  rw [scanned.index, scanned.reached, without, List.length_append]
  exact Nat.le_add_right _ _

/-- What stands before a scan is the first of the entries that are yet to come. -/
theorem getElem?_index (scanned : Scanned capacity cache front back scan reached gone) :
    reached.entries[scan.index]? = back.head? := by
  rw [scanned.index, scanned.reached, without, List.getElem?_append_right (Nat.le_refl _),
    Nat.sub_self, List.head?_eq_getElem?]

theorem take {entry : String × SlotId} {rest : List (String × SlotId)}
    (scanned : Scanned capacity cache front (entry :: rest) scan reached gone)
    (isVictim : cache.victim entry = true) (many : capacity < scan.settled) :
    Scanned capacity cache (front ++ [entry]) rest { scan with settled := scan.settled - 1 }
      { reached with entries := reached.entries.eraseIdx scan.index } (gone ++ [entry.1]) := by
  have more : (front ++ [entry]).filter cache.victim = front.filter cache.victim ++ [entry] := by
    simp [isVictim]
  have settled := scanned.settled
  refine ⟨by simp [scanned.entries], ?reached, by simp [scanned.index, isVictim], ?settled, ?excess, ?gone⟩
  case reached =>
    rw [scanned.index, scanned.reached]
    simp [without, isVictim, List.eraseIdx_append_of_length_le]
  case settled =>
    simp only [more, List.length_append, List.length_singleton]
    omega
  case excess =>
    rw [more, List.length_append, List.length_singleton]
    omega
  case gone => rw [more, List.map_append, scanned.gone, List.map_singleton]

theorem pass {entry : String × SlotId} {rest : List (String × SlotId)}
    (scanned : Scanned capacity cache front (entry :: rest) scan reached gone)
    (isSpared : cache.victim entry = false) :
    Scanned capacity cache (front ++ [entry]) rest { scan with index := scan.index + 1 } reached
      gone where
  entries := by simp [scanned.entries]
  reached := by simp [scanned.reached, without, isSpared]
  index := by simp [scanned.index, isSpared]
  settled := by simpa [isSpared] using scanned.settled
  excess := by simpa [isSpared] using scanned.excess
  gone := by simpa [isSpared] using scanned.gone

theorem step {evicted : Option String}
    (scanned : Scanned capacity cache front back scan reached gone)
    (stepped : reached.scanStep capacity scan = some (nextScan, next, evicted)) :
    ∃ entry rest, back = entry :: rest ∧
      Scanned capacity cache (front ++ [entry]) rest nextScan next (gone ++ evicted.toList) := by
  obtain ⟨entry, here, many, moved⟩ := scanStep_cases stepped
  have key := scanStep_evicted stepped here
  rw [scanned.getElem?_index, List.head?_eq_some_iff] at here
  obtain ⟨rest, rfl⟩ := here
  have same : reached.victim entry = cache.victim entry := by rw [scanned.reached]; rfl
  rw [same] at moved key
  refine ⟨entry, rest, rfl, ?_⟩
  rcases moved with ⟨isVictim, rfl, rfl⟩ | ⟨isSpared, rfl, rfl⟩
  · simpa [key, isVictim] using scanned.take isVictim many
  · simpa [key, isSpared] using scanned.pass isSpared

/-- Where a scan ends it has evicted the first victims, and all there are unless the capacity is kept. -/
theorem surplus_eq (scanned : Scanned capacity cache front back scan reached gone)
    (ended : reached.scanStep capacity scan = none) :
    (front.filter cache.victim).length = cache.surplus capacity ∧
      (scan.settled ≤ capacity ∨ back = []) := by
  have victims : cache.victims = front.filter cache.victim ++ back.filter cache.victim := by
    rw [Cache.victims, scanned.entries, List.filter_append]
  have settled := scanned.settled
  have excess := scanned.excess
  rw [surplus, victims, List.length_append]
  rcases scanStep_eq_none_iff.mp ended with passed | few
  · have none : back = [] := by
      rw [← List.getElem?_eq_none_iff, scanned.getElem?_index, List.head?_eq_none_iff] at passed
      exact passed
    subst none
    exact ⟨by simp only [List.filter_nil, List.length_nil]; omega, .inr rfl⟩
  · exact ⟨by omega, .inl few⟩

end Scanned

theorem Scans.scanned (scans : Scans capacity cache steps scan reached gone) :
    ∃ front back, Scanned capacity cache front back scan reached gone ∧ front.length = steps := by
  induction scans with
  | start => exact ⟨[], cache.entries, .start capacity cache, rfl⟩
  | step _ stepped ih =>
      obtain ⟨front, back, scanned, count⟩ := ih
      obtain ⟨entry, rest, rfl, further⟩ := scanned.step stepped
      exact ⟨front ++ [entry], rest, further, by rw [List.length_append, count, List.length_singleton]⟩

/-- From each of its points a scan goes on to where it ends. -/
theorem Scans.evict (scans : Scans capacity cache steps scan reached gone) :
    ∃ count last, Scans capacity cache count last (reached.evict capacity scan).1
        (gone ++ (reached.evict capacity scan).2) ∧
      (reached.evict capacity scan).1.scanStep capacity last = none := by
  fun_induction Cache.evict capacity reached scan generalizing steps gone with
  | case1 reached scan ended => exact ⟨steps, scan, by simpa using scans, ended⟩
  | case2 reached scan nextScan next evicted stepped last more evicts ih =>
      rw [evicts] at ih
      obtain ⟨count, final, scans, ended⟩ := ih (.step scans stepped)
      exact ⟨count, final, by simpa using scans, ended⟩

/-- What is left of a cache when the victims that a capacity asks for have been evicted. -/
structure EvictsFirst (capacity : Nat) (cache after : Cache L) (evicted : List String) : Prop where
  /-- The first victims are gone, and all else is as it was and where it was. -/
  split : ∃ front back, cache.entries = front ++ back ∧
    front.filter cache.victim = cache.victims.take (cache.surplus capacity) ∧
    after = cache.without front back
  evicted : evicted = (cache.victims.take (cache.surplus capacity)).map Prod.fst
  order : after.entries.Sublist cache.entries
  stays : ∀ entry ∈ cache.entries, cache.victim entry = false → entry ∈ after.entries
  enough : after.settledCount ≤ capacity ∨
    ∀ entry ∈ after.entries, (after.slot entry.2).isSettled = true → after.isHeld entry.2 = true

theorem Scanned.evictsFirst (scanned : Scanned capacity cache front back scan reached gone)
    (ended : reached.scanStep capacity scan = none) : EvictsFirst capacity cache reached gone := by
  obtain ⟨count, few⟩ := scanned.surplus_eq ended
  have first : front.filter cache.victim = cache.victims.take (cache.surplus capacity) := by
    rw [victims, scanned.entries, List.filter_append, ← count, List.take_left]
  have left := scanned.reached
  refine ⟨⟨front, back, scanned.entries, first, left⟩, by rw [← first, scanned.gone], ?order, ?stays,
    ?enough⟩
  case order =>
    rw [left, without, scanned.entries]
    exact List.filter_sublist.append (List.Sublist.refl back)
  case stays =>
    intro entry member isSpared
    rw [scanned.entries, List.mem_append] at member
    rw [left, without]
    exact List.mem_append.mpr (member.imp_left fun inFront => List.mem_filter.mpr ⟨inFront, by simp [isSpared]⟩)
  case enough =>
    refine few.imp (fun few => scanned.settled_eq ▸ few) ?_
    rintro rfl entry member settled
    subst left
    have isSpared : cache.victim entry = false := by
      have passed : entry ∈ front ∧ cache.victim entry = false := by simpa [without] using member
      exact passed.2
    exact isHeld_of_not_victim isSpared settled

/-- What holds at a point of a scan: it has taken no more steps than there are entries, it stands within the
list or at its end, and its count is that of the settled slots which are listed. -/
structure OnCourse (capacity : Nat) (cache : Cache L) (steps : Nat) (scan : Scan) (reached : Cache L) :
    Prop where
  steps : steps ≤ cache.entries.length
  index : scan.index ≤ reached.entries.length
  settled : scan.settled = reached.settledCount
  /-- A step looks at an entry that is there, and leaves a count that it can lower. -/
  within : ∀ next, reached.scanStep capacity scan = some next →
    scan.index < reached.entries.length ∧ 0 < scan.settled

theorem Scans.onCourse (scans : Scans capacity cache steps scan reached gone) :
    OnCourse capacity cache steps scan reached := by
  obtain ⟨front, back, scanned, rfl⟩ := scans.scanned
  refine ⟨?steps, scanned.index_le, scanned.settled_eq, ?within⟩
  case steps =>
    rw [scanned.entries, List.length_append]
    exact Nat.le_add_right _ _
  case within =>
    rintro ⟨nextScan, next, evicted⟩ stepped
    obtain ⟨entry, here, many, _⟩ := scanStep_cases stepped
    exact ⟨(List.getElem?_eq_some_iff.mp here).1, Nat.zero_lt_of_lt many⟩

/-- To keep a capacity a scan evicts the first of the settled slots that nobody holds, as many as are settled
beyond the capacity, and stops; without a capacity nothing changes. -/
theorem capacity_evicts_first (cache : Cache L) :
    (cache.capacity = none → cache.enforceCapacity = (cache, [])) ∧
    ∀ capacity, cache.capacity = some capacity →
      EvictsFirst capacity cache cache.enforceCapacity.1 cache.enforceCapacity.2 ∧
      (∃ steps scan, Scans capacity cache steps scan cache.enforceCapacity.1 cache.enforceCapacity.2 ∧
        cache.enforceCapacity.1.scanStep capacity scan = none) ∧
      ∀ steps scan reached gone, Scans capacity cache steps scan reached gone →
        OnCourse capacity cache steps scan reached := by
  constructor
  · intro boundless
    simp only [enforceCapacity, boundless]
  · intro capacity bound
    obtain ⟨steps, scan, scans, ended⟩ := (Scans.start : Scans capacity cache _ _ _ _).evict
    have evicts : cache.enforceCapacity = cache.evict capacity ⟨0, cache.settledCount⟩ := by
      simp only [enforceCapacity, bound]
    rw [List.nil_append] at scans
    obtain ⟨front, back, scanned, _⟩ := scans.scanned
    rw [evicts]
    exact ⟨scanned.evictsFirst ended, ⟨steps, scan, scans, ended⟩, fun _ _ _ _ => Scans.onCourse⟩

/-- Two pages too many, of which the first is in use, and a page that is compiled for the first time. -/
def crammed : Cache Nat where
  capacity := some 2
  failurePolicy := .remember
  entries := [("busy", 0), ("old", 1), ("new", 2), ("failed", 3), ("recent", 4)]
  slots := #[{ status := .ready }, { status := .ready }, {}, { status := .failed }, { status := .ready }]
  held := [0, 2]

theorem crammed_evicts_first :
    crammed.capacity = some 2 ∧
    EvictsFirst 2 crammed crammed.enforceCapacity.1 ["old", "failed"] ∧
    crammed.enforceCapacity.1.entries = [("busy", 0), ("new", 2), ("recent", 4)] ∧
    (∃ steps scan, Scans 2 crammed steps scan crammed.enforceCapacity.1 ["old", "failed"] ∧ steps ≤ 5) ∧
    { crammed with capacity := none }.enforceCapacity.1.entries = crammed.entries := by
  obtain ⟨evicts, ⟨steps, scan, scans, _⟩, onCourse⟩ := (capacity_evicts_first crammed).2 2 rfl
  have boundless := (capacity_evicts_first { crammed with capacity := none }).1 rfl
  have evicted : crammed.enforceCapacity.2 = ["old", "failed"] := by decide +kernel
  rw [evicted] at evicts scans
  have few := (onCourse _ _ _ _ scans).steps
  exact ⟨rfl, evicts, by decide +kernel, ⟨steps, scan, scans, few⟩, by rw [boundless]⟩

end Templating.Cache
