import Phrasebook.Proofs.Traffic.Invariant

namespace Phrasebook.Traffic

variable {σ : Type} {first : Translator σ} {traffic : Traffic σ}

theorem not_merged_of_free {translator : Translator σ} {key : LoadKey}
    (free : translator.holds key = false) : ¬ Merged translator.store key := by
  rintro ⟨name, rfl, merged⟩
  simp only [Translator.holds, merged] at free
  contradiction

theorem merged_of_holds {translator : Translator σ} {key : LoadKey}
    (held : translator.holds key = true) : Merged translator.store key := by
  cases key with
  | locale name => simp [Translator.holds] at held
  | fragment name => exact ⟨name, rfl, held⟩

/-- Storing what was loaded for one key merges no other namespace. -/
theorem merged_of_commit {translator : Translator σ} {key name : LoadKey} {outcome : LoadOutcome}
    (different : name ≠ key) (merged : Merged (translator.commit key outcome).store name) :
    Merged translator.store name := by
  cases outcome with
  | error error => exact merged
  | ok dictionary =>
      obtain ⟨fragment, rfl, marked⟩ := merged
      refine ⟨fragment, rfl, ?_⟩
      cases key with
      | locale locale => exact MessageStore.hasNamespace_of_setLocale marked
      | fragment other =>
          rcases MessageStore.hasNamespace_mergeNamespace.mp marked with ⟨left, right⟩ | marked
          · exact absurd (congrArg LoadKey.fragment (Prod.ext left right)) different
          · exact marked

theorem getElem?_concat_cases {α : Type} {items : List α} {last item : α} {index : Nat}
    (found : (items ++ [last])[index]? = some item) :
    items[index]? = some item ∨ (index = items.length ∧ item = last) := by
  rw [List.getElem?_append] at found
  split at found
  · exact .inl found
  · next beyond =>
      obtain ⟨inside, same⟩ := List.getElem?_eq_some_iff.mp found
      simp only [List.length_cons, List.length_nil] at inside
      exact .inr ⟨by omega, by simpa using same.symm⟩

theorem getElem?_concat_of_some {α : Type} {items : List α} {last item : α} {index : Nat}
    (found : items[index]? = some item) : (items ++ [last])[index]? = some item := by
  have inside := (List.getElem?_eq_some_iff.mp found).1
  rw [List.getElem?_append_left inside, found]

theorem getElem?_set_of_ne {α : Type} {items : List α} {changed item : α} {index place : Nat}
    (different : index ≠ place) (found : items[index]? = some item) :
    (items.set place changed)[index]? = some item := by
  rw [List.getElem?_set_ne (Ne.symm different), found]

theorem getElem?_set_self_of_some {α : Type} {items : List α} {changed item : α} {place : Nat}
    (found : items[place]? = some item) : (items.set place changed)[place]? = some changed :=
  List.getElem?_set_self (List.getElem?_eq_some_iff.mp found).1

theorem getElem?_set_cases {α : Type} {items : List α} {changed item : α} {index place : Nat}
    (found : (items.set place changed)[index]? = some item) :
    (index ≠ place ∧ items[index]? = some item) ∨ (index = place ∧ item = changed) := by
  rw [List.getElem?_set] at found
  split at found
  · next same =>
      split at found
      · exact .inr ⟨same.symm, (Option.some.inj found).symm⟩
      · contradiction
  · next different => exact .inl ⟨Ne.symm different, found⟩

namespace Consistent

theorem pending_append (consistent : Consistent first traffic) {events : List (Event σ)}
    {key : LoadKey} {flight : Flight σ}
    (silent : ∀ number outcome, ¬ Ended events number outcome)
    (kept : ∀ number, ¬ Unloaded events number)
    (found : traffic.translator.flights.find? key = some flight) :
    UnderWay (traffic.log ++ events) flight.number key ∧
      Recorded (traffic.log ++ events) flight ∧ ¬ Merged traffic.translator.store key := by
  obtain ⟨underWay, recorded, free⟩ := consistent.pending key flight found
  exact ⟨underWay.append (kept _), recorded.append (silent _), free⟩

theorem answered (consistent : Consistent first traffic) {key : LoadKey}
    {result : Except Error Unit} (merged : result = .ok () → Merged traffic.translator.store key) :
    Consistent first
      { traffic with
        callers := traffic.callers ++ [.gone]
        log := traffic.log ++ [.answered traffic.callers.length key result] } := by
  have fits : Fits first traffic.log (.answered traffic.callers.length key result) := by
    intro isOk
    rw [consistent.accounted]
    exact merged isOk
  constructor
  case hooks => exact consistent.hooks
  case accounted => rw [stateAfter_append, consistent.accounted]; rfl
  case orderly => exact consistent.orderly.concat fits
  case distinct => exact consistent.distinct
  case numbered => simpa using consistent.numbered
  case pending => exact fun name other => consistent.pending_append (by simp) (by simp)
  case underWay =>
    simpa [UnderWay] using consistent.underWay
  case known =>
    intro caller number name member
    have before := consistent.known caller number name (by simpa using member)
    simp only [List.length_append]
    omega
  case callers =>
    intro caller standing found
    rcases getElem?_concat_cases found with found | ⟨_, rfl⟩
    · exact standing_append (consistent.callers caller standing found)
        (by simp) (by simp) (by simp)
    · trivial
  case owners =>
    intro caller number name outcome member
    exact (consistent.owners caller number name outcome (by simpa using member)).imp
      getElem?_concat_of_some (.imp fun _ => List.mem_append_left _)

/-- A load is started for a key without one, and may have ended at once. -/
theorem starts (consistent : Consistent first traffic) {key : LoadKey} {progress : Progress σ}
    {world : σ} (none : traffic.translator.flights.find? key = none)
    (free : traffic.translator.holds key = false) :
    Consistent first
      { traffic with
        translator := { traffic.translator with
          flights := (traffic.translator.flights.depart key progress).2
          world }
        log := traffic.log ++
          .started traffic.translator.flights.started key world ::
            Flight.ending ⟨traffic.translator.flights.started, progress⟩ world } := by
  generalize isNumber : traffic.translator.flights.started = number at *
  have fresh : ∀ other, ¬ Started traffic.log number other := fun other started => by
    have below := consistent.numbered number other started
    omega
  have neverEnded : ∀ outcome, ¬ Ended traffic.log number outcome := fun outcome ended => by
    obtain ⟨other, started⟩ := consistent.orderly.started_of_ended ended
    exact fresh other started
  have notUnloaded : ¬ Unloaded traffic.log number := by
    rintro ⟨caller, other, outcome, member⟩
    exact fresh other (consistent.orderly.started_of_joined
      (consistent.orderly.joined_of_unloaded member))
  have departs : Fits first traffic.log (.started number key world) := by
    refine ⟨fresh, fun other underWay => ?_, ?_⟩
    · obtain ⟨progress, found⟩ := consistent.underWay other key underWay
      simp [none] at found
    · rw [consistent.accounted]
      exact not_merged_of_free free
  have orderly : Orderly first (traffic.log ++ [.started number key world]) :=
    consistent.orderly.concat departs
  constructor
  case hooks => exact consistent.hooks
  case accounted =>
    rw [stateAfter_append, consistent.accounted]
    cases progress <;> rfl
  case orderly =>
    rw [List.append_cons]
    cases progress with
    | awaiting finish => simpa [Flight.ending, Progress.outcome?] using orderly
    | settled outcome =>
        refine orderly.concat ⟨⟨key, ?_⟩, ?_⟩
        · simpa [UnderWay] using notUnloaded
        · intro other
          simpa using neverEnded other
  case distinct => exact consistent.distinct.put _ _
  case numbered =>
    intro other name started
    show other < traffic.translator.flights.started + 1
    simp only [started_append, started_cons, not_started_ending, or_false] at started
    rcases started with known | ⟨state, same⟩
    · have below := consistent.numbered other name known
      omega
    · cases same
      omega
  case pending =>
    intro name flight found
    rw [Flights.find?_depart, isNumber] at found
    split at found
    · next same =>
        subst same
        cases found
        refine ⟨by simpa [UnderWay] using notUnloaded, fun outcome => ?_, not_merged_of_free free⟩
        simp [neverEnded outcome]
    · obtain ⟨underWay, recorded, merged⟩ := consistent.pending name flight found
      have different : flight.number ≠ number := fun same => fresh name (same ▸ underWay.1)
      exact ⟨underWay.append (by simp), recorded.append (by simp [different]), merged⟩
  case underWay =>
    intro other name underWay
    rw [Flights.find?_depart, isNumber]
    obtain ⟨started, notUnloaded⟩ := underWay
    simp only [started_append, started_cons, not_started_ending, or_false] at started
    rcases started with known | ⟨state, same⟩
    · obtain ⟨progress, found⟩ := consistent.underWay other name
        ⟨known, fun unloaded => notUnloaded (by simp [unloaded])⟩
      have different : name ≠ key := fun same => by simp [same, none] at found
      exact ⟨progress, by rw [if_neg different, found]⟩
    · cases same
      exact ⟨progress, if_pos rfl⟩
  case known => simpa using consistent.known
  case callers =>
    intro caller standing found
    refine standing_append (consistent.callers caller standing found) ?_ (by simp) (by simp)
    intro other name outcome joined
    have different : other ≠ number := fun same =>
      fresh name (same ▸ consistent.orderly.started_of_joined joined)
    simp [different]
  case owners =>
    intro caller other name outcome member
    exact (consistent.owners caller other name outcome (by simpa using member)).imp id
      (.imp fun _ => List.mem_append_left _)

theorem joins (consistent : Consistent first traffic) {key : LoadKey} {flight : Flight σ}
    (found : traffic.translator.flights.find? key = some flight) :
    Consistent first
      { traffic with
        callers := traffic.callers ++ [.waiting key flight]
        log := traffic.log ++ [.joined traffic.callers.length flight.number key] } := by
  obtain ⟨underWay, recorded, _⟩ := consistent.pending key flight found
  have newcomer : ∀ number name, .joined traffic.callers.length number name ∉ traffic.log := by
    intro number name member
    exact absurd (consistent.known _ _ _ member) (Nat.lt_irrefl _)
  constructor
  case hooks => exact consistent.hooks
  case accounted => rw [stateAfter_append, consistent.accounted]; rfl
  case orderly => exact consistent.orderly.concat ⟨underWay, newcomer⟩
  case distinct => exact consistent.distinct
  case numbered => simpa using consistent.numbered
  case pending => exact fun name other => consistent.pending_append (by simp) (by simp)
  case underWay => simpa [UnderWay] using consistent.underWay
  case known =>
    intro caller number name member
    simp only [List.length_append, List.length_singleton]
    rcases List.mem_append.mp member with member | same
    · exact Nat.lt_succ_of_lt (consistent.known caller number name member)
    · cases List.mem_singleton.mp same
      exact Nat.lt_succ_self _
  case callers =>
    intro caller standing present
    rcases getElem?_concat_cases present with present | ⟨rfl, rfl⟩
    · exact standing_append (consistent.callers caller standing present)
        (by simp) (by simp) (by simp)
    · refine ⟨by simp, recorded.append (by simp), ?_, ?_⟩
      · intro returned
        obtain ⟨number, name, member⟩ :=
          consistent.orderly.joined_of_returned (by simpa using returned)
        exact newcomer number name member
      · intro number name outcome member
        exact newcomer number name
          (consistent.orderly.joined_of_unloaded (by simpa using member))
  case owners =>
    intro caller number name outcome member
    exact (consistent.owners caller number name outcome (by simpa using member)).imp
      getElem?_concat_of_some (.imp fun _ => List.mem_append_left _)

/-- A load ends, and all calls that wait for it know. -/
theorem lands (consistent : Consistent first traffic) {key : LoadKey} {number : Nat}
    {finish : Int64 → σ → LoadOutcome × σ} {outcome : LoadOutcome} {world : σ}
    {flights : Flights LoadKey σ}
    (found : traffic.translator.flights.find? key = some ⟨number, .awaiting finish⟩)
    (isLanded : flights = { traffic.translator.flights with
      pending := Keyed.put key ⟨number, .settled outcome⟩ traffic.translator.flights.pending }) :
    Consistent first
      { translator := { traffic.translator with flights, world }
        callers := traffic.callers.map (Caller.refreshed flights)
        log := traffic.log ++ [.ended number outcome world] } := by
  obtain ⟨underWay, inAir, _⟩ := consistent.pending key _ found
  have lookup : ∀ other, flights.find? other =
      if other = key then some ⟨number, .settled outcome⟩
      else traffic.translator.flights.find? other := fun other => by
    rw [isLanded]
    exact Keyed.get?_put ..
  have neverEnded : ∀ other, ¬ Ended traffic.log number other := fun other ended => by
    simpa [Progress.outcome?] using (inAir other).mp ended
  have pendingNow : ∀ name flight, flights.find? name = some flight →
      UnderWay (traffic.log ++ [.ended number outcome world]) flight.number name ∧
        Recorded (traffic.log ++ [.ended number outcome world]) flight ∧
        ¬ Merged traffic.translator.store name := by
    intro name flight present
    rw [lookup] at present
    split at present
    · next same =>
        subst same
        cases present
        refine ⟨underWay.append (by simp), fun other => ?_, (consistent.pending name _ found).2.2⟩
        simp [neverEnded other, Progress.outcome?]
    · next different =>
        obtain ⟨otherUnderWay, recorded, free⟩ := consistent.pending name flight present
        have distinct : number ≠ flight.number := fun same => different
          (consistent.orderly.started_unique otherUnderWay.1 (same ▸ underWay.1))
        exact ⟨otherUnderWay.append (by simp), recorded.append (by simp [distinct]), free⟩
  constructor
  case hooks => exact consistent.hooks
  case accounted => rw [stateAfter_append, consistent.accounted]; rfl
  case orderly => exact consistent.orderly.concat ⟨⟨key, underWay⟩, neverEnded⟩
  case distinct =>
    rw [isLanded]
    exact consistent.distinct.put _ _
  case numbered =>
    rw [isLanded]
    simpa using consistent.numbered
  case pending => exact pendingNow
  case underWay =>
    intro other name stillUnderWay
    obtain ⟨progress, present⟩ := consistent.underWay other name
      (by simpa [UnderWay] using stillUnderWay)
    show ∃ progress, flights.find? name = some ⟨other, progress⟩
    rw [lookup]
    by_cases same : name = key
    · subst same
      rw [found] at present
      cases present
      exact ⟨.settled outcome, if_pos rfl⟩
    · exact ⟨progress, by rw [if_neg same, present]⟩
  case known => simpa using consistent.known
  case callers =>
    intro caller standing present
    simp only [List.getElem?_map, Option.map_eq_some_iff] at present
    obtain ⟨before, present, rfl⟩ := present
    have held := consistent.callers caller before present
    cases before with
    | gone => trivial
    | leaving name other outcome own => exact leaving_append held (by simp) (by simp)
    | waiting name flight =>
        obtain ⟨joined, recorded, stays, notUnloaded⟩ := held
        refine ⟨?_, ?_, by simpa using stays, by simpa using notUnloaded⟩
        · rw [flights.latest_number name flight]
          exact List.mem_append_left _ joined
        · rcases flights.latest_cases name flight with unchanged | ⟨current, _⟩
          · -- an unchanged flight cannot be the one that has just ended
            rw [unchanged]
            refine recorded.append fun other ended => ?_
            have same : number = flight.number := And.left (by simpa using ended)
            have ofKey : name = key := consistent.orderly.started_unique
              (consistent.orderly.started_of_joined joined) (same ▸ underWay.1)
            have landed := Flights.latest_of_find? flight
              ((lookup name).trans (if_pos ofKey)) same
            rw [unchanged] at landed
            subst landed
            exact neverEnded outcome ((recorded outcome).mpr rfl)
          · exact (pendingNow name _ current).2.1
  case owners =>
    intro caller other name brought member
    refine (consistent.owners caller other name brought (by simpa using member)).imp ?_
      (.imp fun _ => List.mem_append_left _)
    intro leaving
    simp [leaving, Caller.refreshed]

theorem unloads (consistent : Consistent first traffic) {key : LoadKey} {number caller : Nat}
    {outcome : LoadOutcome} {progress : Progress σ} {translator : Translator σ}
    (waits : traffic.callers[caller]? = some (.waiting key ⟨number, .settled outcome⟩))
    (found : traffic.translator.flights.find? key = some ⟨number, progress⟩)
    (isCommitted : translator = ({ traffic.translator with
      flights := { traffic.translator.flights with
        pending := Keyed.erase key traffic.translator.flights.pending } } :
          Translator σ).commit key outcome) :
    Consistent first
      { translator
        callers := traffic.callers.set caller (.leaving key number outcome true)
        log := traffic.log ++ [.unloaded caller number key outcome] } := by
  obtain ⟨joined, recorded, stays, notUnloaded⟩ := consistent.callers caller _ waits
  obtain ⟨underWay, _, _⟩ := consistent.pending key _ found
  have ended : Ended traffic.log number outcome := (recorded outcome).mpr rfl
  have flights : translator.flights = { traffic.translator.flights with
      pending := Keyed.erase key traffic.translator.flights.pending } := by
    rw [isCommitted]
    cases outcome <;> rfl
  have lookup : ∀ other, translator.flights.find? other =
      if other = key then none else traffic.translator.flights.find? other := fun other => by
    rw [flights]
    exact Keyed.get?_erase ..
  constructor
  case hooks =>
    rw [isCommitted, ← consistent.hooks]
    cases outcome <;> rfl
  case accounted =>
    rw [stateAfter_append, consistent.accounted, isCommitted]
    cases outcome <;> rfl
  case orderly => exact consistent.orderly.concat ⟨joined, underWay, ended⟩
  case distinct =>
    rw [flights]
    exact consistent.distinct.erase key
  case numbered =>
    rw [flights]
    simpa using consistent.numbered
  case pending =>
    intro name flight present
    rw [lookup] at present
    split at present
    · contradiction
    · next different =>
        obtain ⟨otherUnderWay, otherRecorded, free⟩ := consistent.pending name flight present
        have distinct : number ≠ flight.number := fun same => different
          (consistent.orderly.started_unique otherUnderWay.1 (same ▸ underWay.1))
        refine ⟨otherUnderWay.append (by simp [distinct]), otherRecorded.append (by simp), ?_⟩
        intro merged
        rw [isCommitted] at merged
        have before := merged_of_commit different merged
        exact free before
  case underWay =>
    intro other name stillUnderWay
    obtain ⟨started, notYet⟩ := stillUnderWay
    have distinct : number ≠ other := fun same => notYet (by simp [same])
    obtain ⟨progress', present⟩ := consistent.underWay other name
      ⟨by simpa using started, fun unloaded => notYet (by simp [unloaded])⟩
    have different : name ≠ key := fun same => by
      rw [same, found] at present
      cases present
      exact distinct rfl
    exact ⟨progress', by rw [lookup, if_neg different, present]⟩
  case known => simpa using consistent.known
  case callers =>
    intro other standing present
    rcases getElem?_set_cases present with ⟨different, present⟩ | ⟨rfl, rfl⟩
    · exact standing_append (consistent.callers other standing present)
        (by simp) (by simp) (by simp [different])
    · exact ⟨by simpa using joined, by simpa using ended, by simpa using stays,
        ⟨_, List.mem_append_right _ (List.mem_singleton_self _)⟩, by simp⟩
  case owners =>
    intro owner other name brought member
    rcases List.mem_append.mp member with member | same
    · have different : owner ≠ caller := fun same => notUnloaded _ _ _ (same ▸ member)
      exact (consistent.owners owner other name brought member).imp
        (getElem?_set_of_ne different) (.imp fun _ => List.mem_append_left _)
    · cases List.mem_singleton.mp same
      exact .inl (getElem?_set_self_of_some waits)

/-- What a call waits for has been unloaded if it is no longer under way. -/
theorem unloaded_of_absent (consistent : Consistent first traffic) {key : LoadKey} {caller : Nat}
    {flight : Flight σ} (waits : traffic.callers[caller]? = some (.waiting key flight))
    (absent : ∀ progress, traffic.translator.flights.find? key ≠ some ⟨flight.number, progress⟩) :
    ∃ owner outcome, .unloaded owner flight.number key outcome ∈ traffic.log := by
  have started : Started traffic.log flight.number key :=
    consistent.orderly.started_of_joined (consistent.callers caller _ waits).1
  -- what is neither under way nor unloaded was never started
  have someone : Unloaded traffic.log flight.number := Classical.byContradiction fun nobody => by
    obtain ⟨progress, found⟩ := consistent.underWay flight.number key ⟨started, nobody⟩
    exact absent progress found
  obtain ⟨owner, name, outcome, member⟩ := someone
  have ofKey : name = key := consistent.orderly.started_unique
    (consistent.orderly.started_of_joined (consistent.orderly.joined_of_unloaded member)) started
  exact ⟨owner, outcome, ofKey ▸ member⟩

theorem findsUnloaded (consistent : Consistent first traffic) {key : LoadKey}
    {number caller : Nat} {outcome : LoadOutcome}
    (waits : traffic.callers[caller]? = some (.waiting key ⟨number, .settled outcome⟩))
    (absent : ∀ progress, traffic.translator.flights.find? key ≠ some ⟨number, progress⟩) :
    Consistent first
      { traffic with callers := traffic.callers.set caller (.leaving key number outcome false) } := by
  obtain ⟨joined, recorded, stays, notUnloaded⟩ := consistent.callers caller _ waits
  have ended : Ended traffic.log number outcome := (recorded outcome).mpr rfl
  have unloaded : ∃ owner, .unloaded owner number key outcome ∈ traffic.log := by
    obtain ⟨owner, brought, member⟩ := consistent.unloaded_of_absent waits absent
    have sameOutcome := (recorded brought).mp (consistent.orderly.ended_of_unloaded member)
    cases sameOutcome
    exact ⟨owner, member⟩
  refine { consistent with known := ?known, callers := ?callers, owners := ?owners }
  case known => simpa using consistent.known
  case callers =>
    intro other standing present
    rcases getElem?_set_cases present with ⟨_, present⟩ | ⟨rfl, rfl⟩
    · exact consistent.callers other standing present
    · exact ⟨joined, ended, stays, unloaded, by simpa using notUnloaded number key outcome⟩
  case owners =>
    intro owner other name brought member
    have different : owner ≠ caller := fun same => notUnloaded _ _ _ (same ▸ member)
    exact (consistent.owners owner other name brought member).imp
      (getElem?_set_of_ne different) id

theorem leaves (consistent : Consistent first traffic) {key : LoadKey} {number caller : Nat}
    {outcome : LoadOutcome} {own : Bool}
    (leaving : traffic.callers[caller]? = some (.leaving key number outcome own)) :
    Consistent first
      { translator :=
          if own then traffic.translator.report key (outcome.map fun _ => ())
          else traffic.translator
        callers := traffic.callers.set caller .gone
        log := traffic.log ++ [.returned caller number key (outcome.map fun _ => ()) own] } := by
  obtain ⟨joined, ended, stays, unloaded, isOwner⟩ := consistent.callers caller _ leaving
  generalize isResult : outcome.map (fun _ => ()) = result
  generalize isTold : (if own then traffic.translator.report key result else traffic.translator) =
    translator
  have flights : translator.flights = traffic.translator.flights := by
    rw [← isTold]
    cases own <;> cases result <;> rfl
  have store : translator.store = traffic.translator.store := by
    rw [← isTold]
    cases own <;> cases result <;> rfl
  have hooks : translator.hooks = first.hooks := by
    rw [← isTold, ← consistent.hooks]
    cases own <;> cases result <;> rfl
  constructor
  case hooks => exact hooks
  case accounted =>
    rw [stateAfter_append, consistent.accounted, ← isTold, ← consistent.hooks]
    cases own <;> cases result <;> rfl
  case orderly =>
    exact consistent.orderly.concat
      ⟨joined, stays, outcome, ended, isResult.symm, unloaded, isOwner⟩
  case distinct =>
    rw [flights]
    exact consistent.distinct
  case numbered =>
    rw [flights]
    simpa using consistent.numbered
  case pending =>
    rw [flights, store]
    exact fun name other => consistent.pending_append (by simp) (by simp)
  case underWay =>
    rw [flights]
    simpa [UnderWay] using consistent.underWay
  case known => simpa using consistent.known
  case callers =>
    intro other standing present
    rcases getElem?_set_cases present with ⟨different, present⟩ | ⟨_, rfl⟩
    · exact standing_append (consistent.callers other standing present)
        (by simp) (by simp [Ne.symm different]) (by simp)
    · trivial
  case owners =>
    intro owner other name brought member
    rcases consistent.owners owner other name brought (by simpa using member) with present | told
    · by_cases same : owner = caller
      · rw [same, leaving] at present
        cases present
        exact .inr ⟨result, by simp [same]⟩
      · exact .inl (getElem?_set_of_ne same present)
    · exact .inr (told.imp fun _ => List.mem_append_left _)

/-- Loads under way do not look at the current locale. -/
theorem relocated (consistent : Consistent first traffic) (locale : String) :
    Consistent first { traffic with translator := { traffic.translator with locale } } :=
  { consistent with }

theorem givenUp (consistent : Consistent first traffic) {key : LoadKey} {flight : Flight σ}
    {caller : Nat} (waits : traffic.callers[caller]? = some (.waiting key flight)) :
    Consistent first { traffic with callers := traffic.callers.set caller .gone } := by
  refine { consistent with known := ?known, callers := ?callers, owners := ?owners }
  case known => simpa using consistent.known
  case callers =>
    intro other standing present
    rcases getElem?_set_cases present with ⟨_, present⟩ | ⟨_, rfl⟩
    · exact consistent.callers other standing present
    · trivial
  case owners =>
    intro owner other name brought member
    have notUnloaded := (consistent.callers caller _ waits).2.2.2
    have different : owner ≠ caller := fun same => notUnloaded _ _ _ (same ▸ member)
    exact (consistent.owners owner other name brought member).imp
      (getElem?_set_of_ne different) id

end Consistent

end Phrasebook.Traffic
