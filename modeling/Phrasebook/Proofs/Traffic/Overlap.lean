import Phrasebook.Proofs.Traffic.Seats

namespace Phrasebook.Traffic

open Translator

variable {σ : Type} {first : Translator σ} {traffic middle after : Traffic σ}

inductive Seats (traffic : Traffic σ) : List Nat → List (Stage σ) → Prop where
  | nil : Seats traffic [] []
  | answered {seats : List Nat} {answer : Answer} {stages : List (Stage σ)}
      (others : Seats traffic seats stages) : Seats traffic seats (.answered answer :: stages)
  | waiting {seat : Nat} {seats : List Nat} {call : Waiting σ} {stages : List (Stage σ)}
      (sits : Seated traffic call seat) (own : seat ∉ seats) (others : Seats traffic seats stages) :
      Seats traffic (seat :: seats) (.waiting call :: stages)

theorem Seats.lt {seats : List Nat} {stages : List (Stage σ)} (sitting : Seats traffic seats stages) :
    ∀ seat ∈ seats, seat < traffic.callers.length := by
  induction sitting with
  | nil => simp
  | answered _ ih => exact ih
  | waiting sits _ _ ih =>
      intro seat member
      rcases List.mem_cons.mp member with rfl | member
      · exact sits.lt
      · exact ih seat member

theorem Seats.goes {touched seats : List Nat} {stages : List (Stage σ)}
    (sitting : Seats traffic seats stages) (goes : Goes touched traffic after)
    (untouched : ∀ seat ∈ seats, seat ∉ touched) : Seats after seats stages := by
  induction sitting with
  | nil => exact .nil
  | answered _ ih => exact .answered (ih untouched)
  | waiting sits own _ ih =>
      refine .waiting (goes.kept _ _ (untouched _ (by simp)) sits) own (ih fun seat member => ?_)
      exact untouched seat (List.mem_cons_of_mem _ member)

theorem Seats.cons {seats : List Nat} {stage : Stage σ} {stages : List (Stage σ)}
    (others : Seats after seats stages)
    (beyond : ∀ seat ∈ seats, middle.callers.length ≤ seat)
    {touched : List Nat} (goes : Goes touched middle after)
    (old : ∀ seat ∈ touched, seat < traffic.callers.length)
    (seated : ∀ call, stage = .waiting call →
      ∃ seat, traffic.callers.length ≤ seat ∧ Seated middle call seat)
    (longer : traffic.callers.length ≤ middle.callers.length) :
    ∃ seats, Seats after seats (stage :: stages) ∧
      ∀ seat ∈ seats, traffic.callers.length ≤ seat := by
  have isNew : ∀ seat ∈ seats, traffic.callers.length ≤ seat := fun seat member =>
    Nat.le_trans longer (beyond seat member)
  cases stage with
  | answered answer => exact ⟨seats, .answered others, isNew⟩
  | waiting call =>
      obtain ⟨seat, newSeat, sits⟩ := seated call rfl
      have own : seat ∉ seats := fun member =>
        absurd (beyond seat member) (Nat.not_le_of_lt sits.lt)
      have untouched : seat ∉ touched := fun member =>
        absurd newSeat (Nat.not_le_of_lt (old seat member))
      refine ⟨seat :: seats, .waiting (goes.kept _ _ untouched sits) own others, ?_⟩
      simpa using ⟨newSeat, isNew⟩

/-- Steps lead to the state of a result, in which the calls that wait have new seats. -/
def LeadAll (touched : List Nat) (traffic : Traffic σ)
    (result : List (Stage σ) × Translator σ) : Prop :=
  ∃ after seats, Goes touched traffic after ∧ after.translator = result.2 ∧
    Seats after seats result.1 ∧ ∀ seat ∈ seats, traffic.callers.length ≤ seat

theorem leadAll_beginAll (traffic : Traffic σ) (now : Int64) (calls : List Call) :
    LeadAll [] traffic (beginAll now calls traffic.translator) := by
  induction calls generalizing traffic with
  | nil => exact ⟨traffic, [], .refl _ _, rfl, .nil, by simp⟩
  | cons call calls ih =>
      obtain ⟨middle, starts, translator, seated⟩ := leads_begin traffic now call
      obtain ⟨after, seats, goes, last, others, beyond⟩ := ih middle
      obtain ⟨seats, sitting, isNew⟩ :=
        others.cons beyond goes (by simp) seated starts.length
      rw [translator] at last sitting
      exact ⟨after, seats, starts.trans goes, last, sitting, isNew⟩

/-- Loads end.  Calls that wait still do, and know more of their loads. -/
structure Landing (traffic after : Traffic σ) : Prop where
  steps : ∃ moves, after = traffic.run moves
  length : after.callers.length = traffic.callers.length
  log : traffic.log ⊆ after.log
  waiting : ∀ (caller : Nat) key flight, traffic.callers[caller]? = some (.waiting key flight) →
    ∃ latest, after.callers[caller]? = some (.waiting key latest) ∧ latest.number = flight.number

theorem Landing.refl (traffic : Traffic σ) : Landing traffic traffic where
  steps := ⟨[], rfl⟩
  length := rfl
  log := List.Subset.refl _
  waiting _ _ flight found := ⟨flight, found, rfl⟩

theorem Landing.trans (first : Landing traffic middle) (second : Landing middle after) :
    Landing traffic after where
  steps := by
    obtain ⟨moves, rfl⟩ := first.steps
    obtain ⟨more, rfl⟩ := second.steps
    exact ⟨moves ++ more, (run_append ..).symm⟩
  length := second.length.trans first.length
  log := List.Subset.trans first.log second.log
  waiting caller key flight found := by
    obtain ⟨current, found, same⟩ := first.waiting caller key flight found
    obtain ⟨latest, found, sameAgain⟩ := second.waiting caller key current found
    exact ⟨latest, found, sameAgain.trans same⟩

theorem landing_land (traffic : Traffic σ) (now : Int64) (key : LoadKey) :
    Landing traffic (traffic.land now key) where
  steps := ⟨[.land now key], rfl⟩
  length := by
    unfold land
    split
    · exact List.length_map _
    · rfl
  log := by
    unfold land
    split
    · exact List.subset_append_left _ _
    · exact List.Subset.refl _
  waiting caller name flight found := by
    unfold land
    split
    · exact ⟨_, by rw [List.getElem?_map, found]; rfl, Flights.latest_number ..⟩
    · exact ⟨flight, found, rfl⟩

theorem landing_landAll (traffic : Traffic σ) (now : Int64) (behind ahead : List (LoadKey × Flight σ))
    (listed : traffic.translator.flights.pending = behind ++ ahead)
    (distinct : Keyed.Distinct (behind ++ ahead)) :
    ∃ after, Landing traffic after ∧ after.translator =
      { traffic.translator with
        flights := { traffic.translator.flights with
          pending := behind ++ (Flights.landAll now ahead traffic.translator.world).1 }
        world := (Flights.landAll now ahead traffic.translator.world).2 } := by
  induction ahead generalizing traffic behind with
  | nil =>
      refine ⟨traffic, .refl traffic, ?_⟩
      simp only [Flights.landAll, ← listed]
  | cons entry ahead ih =>
      obtain ⟨key, flight⟩ := entry
      have absent : key ∉ Keyed.keys behind := by
        simp only [Keyed.Distinct, Keyed.keys, List.map_append, List.map_cons] at distinct
        intro member
        exact (List.nodup_append.mp distinct).2.2 key member key (by simp) rfl
      have found : traffic.translator.flights.find? key = some flight := by
        rw [Flights.find?, listed]
        exact Keyed.get?_append_cons_self absent ahead
      have landed : (traffic.land now key).translator =
          { traffic.translator with
            flights := { traffic.translator.flights with
              pending := behind ++ (key, (flight.land now traffic.translator.world).1) :: ahead }
            world := (flight.land now traffic.translator.world).2 } := by
        obtain ⟨number, progress⟩ := flight
        cases progress with
        | awaiting finish =>
            simp only [land, found, listed, Keyed.put_append_cons_self absent]
        | settled outcome =>
            simp only [land, found, Flight.land, Progress.finish, ← listed]
      have moved : behind ++ (key, (flight.land now traffic.translator.world).1) :: ahead =
          (behind ++ [(key, (flight.land now traffic.translator.world).1)]) ++ ahead :=
        List.append_cons ..
      obtain ⟨after, landing, translator⟩ := ih (traffic.land now key)
        (behind ++ [(key, (flight.land now traffic.translator.world).1)])
        (by rw [landed, ← moved]) (by
          rw [← moved]
          simpa [Keyed.Distinct, Keyed.keys] using distinct)
      refine ⟨after, (landing_land traffic now key).trans landing, ?_⟩
      rw [translator, landed]
      simp [Flights.landAll]

theorem landing_all (consistent : Consistent first traffic) (now : Int64) :
    ∃ after, Landing traffic after ∧ after.translator = traffic.translator.landAll now :=
  landing_landAll traffic now [] _ rfl consistent.distinct

theorem get?_landAll (now : Int64) {entries : List (LoadKey × Flight σ)} (state : σ) {key : LoadKey}
    {flight : Flight σ} (found : Keyed.get? key entries = some flight) :
    ∃ outcome, Keyed.get? key (Flights.landAll now entries state).1 =
      some ⟨flight.number, .settled outcome⟩ := by
  induction entries generalizing state with
  | nil => simp [Keyed.get?] at found
  | cons entry entries ih =>
      obtain ⟨name, other⟩ := entry
      by_cases here : name = key
      · simp only [Keyed.get?, if_pos here, Option.some.injEq] at found
        cases found
        exact ⟨_, by simp only [Flights.landAll, Keyed.get?, if_pos here]; rfl⟩
      · simp only [Keyed.get?, if_neg here] at found
        obtain ⟨outcome, later⟩ := ih (other.land now state).2 found
        exact ⟨outcome, by simp only [Flights.landAll, Keyed.get?, if_neg here, later]⟩

theorem Recorded.settled {log : List (Event σ)} {flight : Flight σ} {outcome : LoadOutcome}
    (recorded : Recorded log flight) (ended : Ended log flight.number outcome) :
    flight.progress = .settled outcome := by
  have known := (recorded outcome).mp ended
  cases progress : flight.progress with
  | awaiting finish => simp [progress, Progress.outcome?] at known
  | settled other =>
      rw [progress] at known
      exact congrArg Progress.settled (Option.some.inj known)

def Landed (call : Waiting σ) : Prop :=
  ∃ outcome, call.flight.progress = .settled outcome

theorem Landing.seated (landing : Landing traffic after) (consistent : Consistent first traffic)
    {now : Int64} (all : after.translator = traffic.translator.landAll now) {call : Waiting σ}
    {seat : Nat} (sits : Seated traffic call seat) :
    Landed (call.refreshed after.translator.flights) ∧
      Seated after (call.refreshed after.translator.flights) seat := by
  have consistentAfter : Consistent first after := by
    obtain ⟨moves, rfl⟩ := landing.steps
    exact run_consistent consistent moves
  obtain ⟨key, flight, rest⟩ := call
  obtain ⟨latest, sitsAfter, same⟩ := landing.waiting seat key flight sits
  obtain ⟨_, recorded, _⟩ := consistentAfter.callers seat _ sitsAfter
  -- the load has ended, and all that is known of it says so
  have ended : ∃ outcome, Ended after.log flight.number outcome ∧
      after.translator.flights.latest key flight = ⟨flight.number, .settled outcome⟩ := by
    by_cases held : ∃ progress,
        traffic.translator.flights.find? key = some ⟨flight.number, progress⟩
    · obtain ⟨progress, held⟩ := held
      obtain ⟨outcome, found⟩ := get?_landAll now traffic.translator.world held
      have current : after.translator.flights.find? key =
          some ⟨flight.number, .settled outcome⟩ := by
        rw [all]
        exact found
      exact ⟨outcome, ((consistentAfter.pending key _ current).2.1 outcome).mpr rfl,
        Flights.latest_of_find? flight current rfl⟩
    · obtain ⟨owner, outcome, unloaded⟩ :=
        consistent.unloaded_of_absent sits (not_exists.mp held)
      have endedBefore := consistent.orderly.ended_of_unloaded unloaded
      refine ⟨outcome, endedBefore.mono landing.log, ?_⟩
      rcases after.translator.flights.latest_cases key flight with unchanged | ⟨found, number⟩
      · rw [unchanged, ← (consistent.callers seat _ sits).2.1.settled endedBefore]
      · -- a load that was unloaded is not under way any more
        have underWay := (consistentAfter.pending key _ found).1
        exact absurd ⟨owner, key, outcome, number ▸ landing.log unloaded⟩ underWay.2
  obtain ⟨outcome, ended, refreshed⟩ := ended
  have settled : latest = ⟨flight.number, .settled outcome⟩ := by
    obtain ⟨number, progress⟩ := latest
    cases same
    exact congrArg (Flight.mk flight.number) (recorded.settled ended)
  exact ⟨⟨outcome, congrArg Flight.progress refreshed⟩, by
    rw [Seated, sitsAfter, settled, Waiting.refreshed, refreshed]⟩

theorem Landing.seats (landing : Landing traffic after) (consistent : Consistent first traffic)
    {now : Int64} (all : after.translator = traffic.translator.landAll now) {seats : List Nat}
    {stages : List (Stage σ)} (sitting : Seats traffic seats stages) :
    Seats after seats (stages.map (Stage.refreshed after.translator.flights)) ∧
      ∀ call, .waiting call ∈ stages.map (Stage.refreshed after.translator.flights) →
        Landed call := by
  induction sitting with
  | nil => exact ⟨.nil, by simp⟩
  | answered _ ih => exact ⟨.answered ih.1, by simpa [Stage.refreshed] using ih.2⟩
  | waiting sits own _ ih =>
      obtain ⟨landed, sitsAfter⟩ := landing.seated consistent all sits
      refine ⟨.waiting sitsAfter own ih.1, fun other member => ?_⟩
      rcases List.mem_cons.mp member with same | member
      · cases same
        exact landed
      · exact ih.2 other member

theorem leads_wake (now : Int64) {call : Waiting σ} {seat : Nat} (sits : Seated traffic call seat)
    (landed : Landed call) : Leads [seat] traffic (wake now call traffic.translator) := by
  obtain ⟨key, ⟨number, progress⟩, rest⟩ := call
  obtain ⟨outcome, rfl⟩ := landed
  obtain ⟨settled, _⟩ := unload_leave sits
  have resumes := leads_resume ((traffic.unload seat).leave seat) now rest
    (traffic.translator.settle key number outcome).1
  rw [settled] at resumes
  exact resumes.of_goes (goes_settle traffic seat)

theorem leadAll_wakeAll (now : Int64) {seats : List Nat} {stages : List (Stage σ)}
    (sitting : Seats traffic seats stages) (landed : ∀ call, .waiting call ∈ stages → Landed call) :
    LeadAll seats traffic (wakeAll now stages traffic.translator) := by
  induction stages generalizing traffic seats with
  | nil => exact ⟨traffic, [], .refl _ _, rfl, .nil, by simp⟩
  | cons stage stages ih =>
      have landedLater : ∀ call, .waiting call ∈ stages → Landed call := fun call member =>
        landed call (List.mem_cons_of_mem _ member)
      cases sitting with
      | answered others =>
          obtain ⟨after, seats, goes, translator, others, isNew⟩ := ih others landedLater
          exact ⟨after, seats, goes, translator, .answered others, isNew⟩
      | waiting sits own others =>
          next seat seats call =>
          obtain ⟨middle, wakes, translator, seated⟩ :=
            leads_wake now sits (landed call (by simp))
          have kept : Seats middle seats stages := others.goes wakes fun seat member isSelf =>
            own (List.mem_singleton.mp isSelf ▸ member)
          obtain ⟨after, seats', goes, last, others', beyond⟩ := ih kept landedLater
          obtain ⟨seats', sitting, isNew⟩ :=
            others'.cons beyond goes others.lt seated wakes.length
          rw [translator] at last sitting
          exact ⟨after, seats', wakes.trans goes, last, sitting, isNew⟩

theorem round_seats (consistent : Consistent first traffic) (now : Int64) {seats : List Nat}
    {stages : List (Stage σ)} (sitting : Seats traffic seats stages) :
    ∃ moves seats, (traffic.run moves).translator = (round now stages traffic.translator).2 ∧
      Seats (traffic.run moves) seats (round now stages traffic.translator).1 := by
  obtain ⟨middle, landing, all⟩ := landing_all consistent now
  obtain ⟨sittingThen, landed⟩ := landing.seats consistent all sitting
  obtain ⟨after, seats, goes, translator, others, _⟩ := leadAll_wakeAll now sittingThen landed
  obtain ⟨moves, rfl⟩ := landing.steps
  obtain ⟨more, rfl⟩ := goes.steps
  rw [all] at translator others
  rw [← run_append] at translator others
  exact ⟨moves ++ more, seats, translator, others⟩

theorem rounds_eq_run (consistent : Consistent first traffic) (now : Int64) {seats : List Nat}
    {stages : List (Stage σ)} (sitting : Seats traffic seats stages) :
    ∃ moves, (traffic.run moves).translator = (rounds now stages traffic.translator).2 := by
  generalize same : traffic.translator = translator
  fun_induction rounds now stages translator generalizing traffic seats with
  | case1 stages translator answers answered =>
      exact ⟨[], same⟩
  | case2 stages translator waits next =>
      rename_i ih
      subst same
      obtain ⟨moves, seats, translator, sitting⟩ := round_seats consistent now sitting
      obtain ⟨more, last⟩ := ih (run_consistent consistent moves) sitting translator
      exact ⟨moves ++ more, by rw [run_append, last]⟩

/-- Calls that overlap take the steps of a run. -/
theorem overlap_eq_run (consistent : Consistent first traffic) (now : Int64) (calls : List Call) :
    ∃ moves, (traffic.run moves).translator = (traffic.translator.overlap now calls).2 := by
  obtain ⟨after, seats, goes, begun, sitting, _⟩ := leadAll_beginAll traffic now calls
  obtain ⟨moves, rfl⟩ := goes.steps
  obtain ⟨more, last⟩ := rounds_eq_run (run_consistent consistent moves) now sitting
  exact ⟨moves ++ more, by rw [run_append, last, begun, overlap]⟩

theorem overlap_safe (translator : Translator σ) (now : Int64) (calls : List Call) :
    ∃ traffic, Safe translator traffic ∧
      traffic.translator = ((quiet translator).translator.overlap now calls).2 := by
  have begins := quiet_consistent translator
  obtain ⟨moves, overlapped⟩ := overlap_eq_run begins now calls
  exact ⟨_, (run_consistent begins moves).safe, overlapped⟩

end Phrasebook.Traffic
