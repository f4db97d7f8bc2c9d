import MarketDataGateway.Lib.History
import MarketDataGateway.Runtime.Api

/-!
# Tickets

What is true of the ingress, the two ticket counters and their history, whatever the owner is doing: `TicketFacts`. What the owner
knows on top of it depends on the item it has in hand: `TicketsInHand`. Both are about runs in which the counter of tickets has not
come round.
-/

namespace MarketDataGateway.MarketRuntime

open OrderBook Threads

variable {L : ProjectionLibrary}

/-- The ticket was discarded with the rest of an ingress. -/
def Discarded (t : Nat) (log : List TicketEvent) : Prop :=
  ∃ tickets state status, .discarded tickets state status ∈ log ∧ t ∈ tickets

/-- The event discards the ticket. -/
def TicketEvent.discards (t : Nat) : TicketEvent → Bool
  | .discarded tickets _ _ => t ∈ tickets
  | _ => false

/-- Whether a ticket was discarded can be computed. -/
theorem discarded_iff {t : Nat} {log : List TicketEvent} : Discarded t log ↔ log.any (·.discards t) = true := by
  rw [List.any_eq_true]
  constructor
  · rintro ⟨tickets, state, status, hm, ht⟩
    exact ⟨_, hm, by simpa [TicketEvent.discards] using ht⟩
  · rintro ⟨e, hm, ht⟩
    cases e with
    | discarded tickets state status => exact ⟨tickets, state, status, hm, by simpa [TicketEvent.discards] using ht⟩
    | _ => cases ht

instance (t : Nat) (log : List TicketEvent) : Decidable (Discarded t log) := decidable_of_iff' _ discarded_iff

/-- The ticket is dealt with: its item has been processed to the end, or discarded. -/
def Done (t : Nat) (log : List TicketEvent) : Prop := .finished t ∈ log ∨ Discarded t log

instance (t : Nat) (log : List TicketEvent) : Decidable (Done t log) :=
  inferInstanceAs (Decidable (_ ∨ Discarded t log))

/-- The owner has the item in hand and has already discarded the ingress behind it. -/
def CutShort (t : Nat) (log : List TicketEvent) : Prop :=
  .finished t ∉ log ∧ ∃ later earlier tickets state status,
    log = later ++ .taken t :: earlier ∧ .discarded tickets state status ∈ later

/-- The ticket was given out, to an input that was queued or to one that was lost. -/
def Given (t : Nat) (log : List TicketEvent) : Prop := .accepted t ∈ log ∨ .lost t ∈ log

/-- What each event of the ticket history finds before it. -/
def TicketEvent.Allowed : TicketEvent → List TicketEvent → Prop
  | .accepted t, past | .lost t, past => ∀ u, Given u past → u < t
  | .taken t, past =>
    .accepted t ∈ past ∧ .taken t ∉ past ∧ ¬Discarded t past ∧ ∀ u, u < t → .accepted u ∈ past → Done u past
  | .finished t, past => .taken t ∈ past ∧ .finished t ∉ past
  | .discarded tickets state status, past =>
    (∀ t ∈ tickets, .accepted t ∈ past ∧ .taken t ∉ past) ∧ (state = .faulted ∨ status = .needsResync)
  | .answered _ target, past => ∀ t, t ≤ target → .accepted t ∈ past → Done t past
  | .observed _ target _, past => ∀ t, t ≤ target → .accepted t ∈ past → Done t past ∨ CutShort t past
  | _, _ => True

/-- What is done stays done. -/
theorem Done.cons {t : Nat} {log : List TicketEvent} (e : TicketEvent) (h : Done t log) : Done t (e :: log) := by
  rcases h with h | ⟨ts, st, pr, h, ht⟩
  · exact Or.inl (List.mem_cons_of_mem _ h)
  · exact Or.inr ⟨ts, st, pr, List.mem_cons_of_mem _ h, ht⟩

/-- An item cut short stays so until it is finished. -/
theorem CutShort.cons {t : Nat} {log : List TicketEvent} {e : TicketEvent} (he : e ≠ .finished t) (h : CutShort t log) :
    CutShort t (e :: log) := by
  obtain ⟨hf, later, earlier, ts, st, pr, hs, hd⟩ := h
  refine ⟨?_, e :: later, earlier, ts, st, pr, by rw [hs]; rfl, List.mem_cons_of_mem _ hd⟩
  rintro (_ | ⟨_, h⟩)
  · exact he rfl
  · exact hf h

/-- Events that discard nothing change nothing about what was discarded. -/
theorem discarded_cons {t : Nat} {log : List TicketEvent} {e : TicketEvent} (he : ∀ ts st pr, e ≠ .discarded ts st pr) :
    Discarded t (e :: log) ↔ Discarded t log := by
  constructor
  · rintro ⟨ts, st, pr, h, ht⟩
    rcases List.mem_cons.mp h with h | h
    · exact absurd h.symm (he ts st pr)
    · exact ⟨ts, st, pr, h, ht⟩
  · rintro ⟨ts, st, pr, h, ht⟩
    exact ⟨ts, st, pr, List.mem_cons_of_mem _ h, ht⟩

/-! ## The counter -/

/-- The number of tickets given out. -/
def counted : List TicketEvent → Nat
  | [] => 0
  | .accepted _ :: past | .lost _ :: past => counted past + 1
  | _ :: past => counted past

/-- The ticket counter has not come round. -/
def InRange (log : List TicketEvent) : Prop := counted log ≤ maxUInt64

instance (log : List TicketEvent) : Decidable (InRange log) := inferInstanceAs (Decidable (_ ≤ _))

/-- The count never goes back. -/
theorem counted_le_cons (e : TicketEvent) (log : List TicketEvent) : counted log ≤ counted (e :: log) := by
  cases e with
  | accepted t | lost t => exact Nat.le_succ _
  | _ => exact Nat.le_refl _

/-- A history that is in range was in range before its last event. -/
theorem InRange.past {e : TicketEvent} {log : List TicketEvent} (h : InRange (e :: log)) : InRange log :=
  Nat.le_trans (counted_le_cons e log) h

/-- As long as the counter has not come round, the barrier is none that has yet to be given out. -/
def Known (last : Nat) (log : List TicketEvent) (target : Nat) : Prop := InRange log → target ≤ last

/-- Within the range of the counter the next ticket is the next number. -/
theorem succ_mod_of_inRange {last : Nat} {log : List TicketEvent} (hl : last = counted log) (h : counted log + 1 ≤ maxUInt64) :
    (last + 1) % 2 ^ 64 = last + 1 := by
  rw [hl]
  apply Nat.mod_eq_of_lt
  unfold maxUInt64 at h
  omega

/-! ## What always holds -/

/-- The tickets given out are the numbers up to the last. Those of the ingress ascend and lie ahead of the processed ticket; the others
that were accepted have been taken or discarded, and those up to the processed ticket are dealt with or about to be. -/
structure TicketOrder (ingress : List (IngressItem L)) (last processed : Nat) (log : List TicketEvent) : Prop where
  ascending : (ingress.map (·.ticket)).Pairwise (· < ·)
  ahead : ∀ t ∈ ingress.map (·.ticket), processed < t
  queued : ∀ t ∈ ingress.map (·.ticket), .accepted t ∈ log ∧ .taken t ∉ log ∧ ¬Discarded t log
  bound : processed ≤ last
  total : last = counted log
  given : ∀ t, Given t log ↔ 1 ≤ t ∧ t ≤ last
  apart : ∀ t, .accepted t ∈ log → .lost t ∉ log
  reached : processed = 0 ∨ .accepted processed ∈ log
  finished : ∀ t, .finished t ∈ log → .taken t ∈ log
  gone : ∀ t, .accepted t ∈ log → t ∈ ingress.map (·.ticket) ∨ .taken t ∈ log ∨ Discarded t log
  settled : ∀ t, .accepted t ∈ log → t ≤ processed → Done t log ∨ CutShort t log
  history : Every TicketEvent.Allowed log

/-- The same as long as the counter has not come round. -/
def TicketFacts (ingress : List (IngressItem L)) (last processed : Nat) (log : List TicketEvent) : Prop :=
  InRange log → TicketOrder ingress last processed log

/-- What the owner knows of the tickets that have left the ingress, as long as the counter has not come round: with no item in hand they
are all dealt with; with one, all but that one are, and the ingress lies behind it. -/
def TicketsInHand (item : Option Nat) (ingress : List (IngressItem L)) (processed : Nat) (log : List TicketEvent) : Prop :=
  InRange log →
    (∀ t, item = some t → .taken t ∈ log ∧ .finished t ∉ log ∧ ∀ u ∈ ingress.map (·.ticket), t < u) ∧
    ∀ t, item ≠ some t → .accepted t ∈ log → t ∉ ingress.map (·.ticket) → Done t log ∧ t ≤ processed

variable {ingress : List (IngressItem L)} {last processed : Nat} {log : List TicketEvent}

namespace TicketOrder

/-- A ticket of the ingress is one of those given out. -/
theorem le_last (h : TicketOrder ingress last processed log) {t : Nat} (ht : t ∈ ingress.map (·.ticket)) : t ≤ last :=
  ((h.given t).mp (Or.inl (h.queued t ht).1)).2

/-- A ticket that has been accepted is one of those given out. -/
theorem accepted_le (h : TicketOrder ingress last processed log) {t : Nat} (ht : .accepted t ∈ log) : t ≤ last :=
  ((h.given t).mp (Or.inl ht)).2

/-- A ticket that has been taken had been accepted. -/
theorem accepted_of_taken (h : TicketOrder ingress last processed log) {t : Nat} (ht : .taken t ∈ log) : .accepted t ∈ log := by
  obtain ⟨later, past, rfl⟩ := List.append_of_mem ht
  exact List.mem_append_right _ (List.mem_cons_of_mem _ (h.history.at_event rfl).1)

/-- The back of the ingress holds its largest ticket. -/
theorem le_back (h : TicketOrder ingress last processed log) {back : IngressItem L} (hb : ingress.getLast? = some back) {t : Nat}
    (ht : t ∈ ingress.map (·.ticket)) : t ≤ back.ticket := by
  obtain ⟨init, rfl⟩ := List.getLast?_eq_some_iff.mp hb
  have hasc := h.ascending
  rw [List.map_append, List.pairwise_append] at hasc
  rw [List.map_append, List.mem_append] at ht
  rcases ht with ht | ht
  · exact Nat.le_of_lt (hasc.2.2 t ht _ (by simp))
  · simp only [List.map_cons, List.map_nil, List.mem_singleton] at ht
    exact Nat.le_of_eq ht

/-- Once everything given out is processed nothing waits. -/
theorem ingress_eq_nil (h : TicketOrder ingress last processed log) (hl : last ≤ processed) : ingress = [] := by
  cases ingress with
  | nil => rfl
  | cons front rest =>
    have hm : front.ticket ∈ (front :: rest).map (·.ticket) := List.mem_cons_self
    have hahead := h.ahead _ hm
    have hle := h.le_last hm
    omega

/-- Whoever waited for a barrier below the processed ticket finds everything up to it dealt with, or cut short. -/
theorem barrier (h : TicketOrder ingress last processed log) {target : Nat} (ht : target ≤ processed) (t : Nat)
    (hle : t ≤ target) (ha : .accepted t ∈ log) : Done t log ∨ CutShort t log :=
  h.settled t ha (Nat.le_trans hle ht)

end TicketOrder

namespace TicketFacts

/-- An event that is no submission, taking, finishing or discarding leaves the facts as they are. -/
theorem log_cons {e : TicketEvent} (h : TicketFacts ingress last processed log) (he : InRange log → e.Allowed log)
    (hc : counted (e :: log) = counted log) (ha : ∀ t, e ≠ .accepted t) (hl : ∀ t, e ≠ .lost t) (ht : ∀ t, e ≠ .taken t)
    (hf : ∀ t, e ≠ .finished t) (hd : ∀ ts st pr, e ≠ .discarded ts st pr) :
    TicketFacts ingress last processed (e :: log) := fun hr => by
  have hr' : InRange log := hr.past
  have h := h hr'
  have haccepted : ∀ t, .accepted t ∈ e :: log ↔ .accepted t ∈ log := fun t => by simp [(ha t).symm]
  have hlost : ∀ t, .lost t ∈ e :: log ↔ .lost t ∈ log := fun t => by simp [(hl t).symm]
  have htaken : ∀ t, .taken t ∈ e :: log ↔ .taken t ∈ log := fun t => by simp [(ht t).symm]
  exact
    { ascending := h.ascending
      ahead := h.ahead
      queued := fun t hm => by rw [haccepted, htaken, discarded_cons hd]; exact h.queued t hm
      bound := h.bound
      total := hc ▸ h.total
      given := fun t => by rw [← h.given t, Given, Given, haccepted, hlost]
      apart := fun t => by rw [haccepted, hlost]; exact h.apart t
      reached := by rw [haccepted]; exact h.reached
      finished := fun t hm => List.mem_cons_of_mem _ (h.finished t ((List.mem_cons.mp hm).resolve_left (hf t).symm))
      gone := fun t => by rw [haccepted, htaken, discarded_cons hd]; exact h.gone t
      settled := fun t hm hp =>
        (h.settled t ((haccepted t).mp hm) hp).imp (Done.cons e) (CutShort.cons (hf t))
      history := ⟨he hr', h.history⟩ }

/-- A submission takes the next ticket. -/
theorem accept (h : TicketFacts ingress last processed log) (input : RuntimeInput L) :
    TicketFacts (ingress ++ [⟨(last + 1) % 2 ^ 64, input⟩]) ((last + 1) % 2 ^ 64) processed
      (.accepted ((last + 1) % 2 ^ 64) :: log) := fun hr => by
  have h := h hr.past
  rw [succ_mod_of_inRange h.total hr]
  have hfresh : ¬Given (last + 1) log := fun hg => by have := ((h.given _).mp hg).2; omega
  have hold : ∀ t ∈ ingress.map (·.ticket), t < last + 1 := fun t ht => Nat.lt_succ_of_le (h.le_last ht)
  have hmem : ∀ t, t ∈ (ingress ++ [(⟨last + 1, input⟩ : IngressItem L)]).map (·.ticket) ↔
      t ∈ ingress.map (·.ticket) ∨ t = last + 1 := fun t => by simp
  have htaken : .taken (last + 1) ∉ log := fun hm => hfresh (Or.inl (h.accepted_of_taken hm))
  have hdiscarded : ¬Discarded (last + 1) log := fun ⟨ts, st, pr, hm, ht⟩ => by
    obtain ⟨later, past, rfl⟩ := List.append_of_mem hm
    exact hfresh (Or.inl (List.mem_append_right _ (List.mem_cons_of_mem _ ((h.history.at_event rfl).1 _ ht).1)))
  exact
    { ascending := by
        rw [List.map_append, List.pairwise_append]
        exact ⟨h.ascending, by simp, fun t ht u hu => by
          simp only [List.map_cons, List.map_nil, List.mem_singleton] at hu
          exact hu ▸ hold t ht⟩
      ahead := fun t ht => by
        rcases (hmem t).mp ht with ht | rfl
        · exact h.ahead t ht
        · exact Nat.lt_succ_of_le h.bound
      queued := fun t ht => by
        rw [discarded_cons (by simp)]
        rcases (hmem t).mp ht with ht | rfl
        · obtain ⟨hacc, htk, hdis⟩ := h.queued t ht
          exact ⟨List.mem_cons_of_mem _ hacc, by simp [htk], hdis⟩
        · exact ⟨List.mem_cons_self, by simp [htaken], hdiscarded⟩
      bound := Nat.le_succ_of_le h.bound
      total := congrArg (· + 1) h.total
      given := fun t => by
        have := h.given t
        simp only [Given, List.mem_cons, TicketEvent.accepted.injEq, reduceCtorEq, false_or] at this ⊢
        rw [or_assoc, this]
        omega
      apart := fun t hm hlost => by
        have hlost := (List.mem_cons.mp hlost).resolve_left (by simp)
        rcases List.mem_cons.mp hm with he | hm
        · cases he; exact hfresh (Or.inr hlost)
        · exact h.apart t hm hlost
      reached := h.reached.imp_right (List.mem_cons_of_mem _)
      finished := fun t hm => List.mem_cons_of_mem _ (h.finished t ((List.mem_cons.mp hm).resolve_left (by simp)))
      gone := fun t hm => by
        rw [hmem, discarded_cons (by simp)]
        rcases List.mem_cons.mp hm with he | hm
        · cases he; exact Or.inl (Or.inr rfl)
        · exact (h.gone t hm).imp Or.inl (Or.imp_left (List.mem_cons_of_mem _))
      settled := fun t hm hp => by
        rcases List.mem_cons.mp hm with he | hm
        · cases he; have := h.bound; omega
        · exact (h.settled t hm hp).imp (Done.cons _) (CutShort.cons (by simp))
      history := ⟨fun u hu => Nat.lt_succ_of_le ((h.given u).mp hu).2, h.history⟩ }

/-- A submission that throws loses the next ticket. -/
theorem lose (h : TicketFacts ingress last processed log) :
    TicketFacts ingress ((last + 1) % 2 ^ 64) processed (.lost ((last + 1) % 2 ^ 64) :: log) := fun hr => by
  have h := h hr.past
  rw [succ_mod_of_inRange h.total hr]
  have hfresh : ¬Given (last + 1) log := fun hg => by have := ((h.given _).mp hg).2; omega
  have haccepted : ∀ t, .accepted t ∈ .lost (last + 1) :: log ↔ .accepted t ∈ log := fun t => by simp
  exact
    { ascending := h.ascending
      ahead := h.ahead
      queued := fun t ht => by
        rw [haccepted, discarded_cons (by simp)]
        obtain ⟨hacc, htk, hdis⟩ := h.queued t ht
        exact ⟨hacc, by simp [htk], hdis⟩
      bound := Nat.le_succ_of_le h.bound
      total := congrArg (· + 1) h.total
      given := fun t => by
        have := h.given t
        simp only [Given, List.mem_cons, TicketEvent.lost.injEq, reduceCtorEq, false_or] at this ⊢
        rw [or_left_comm, this]
        omega
      apart := fun t hm hlost => by
        have hm := (haccepted t).mp hm
        rcases List.mem_cons.mp hlost with he | hlost
        · cases he; exact hfresh (Or.inl hm)
        · exact h.apart t hm hlost
      reached := h.reached.imp_right (List.mem_cons_of_mem _)
      finished := fun t hm => List.mem_cons_of_mem _ (h.finished t ((List.mem_cons.mp hm).resolve_left (by simp)))
      gone := fun t hm => by
        rw [discarded_cons (by simp)]
        exact (h.gone t ((haccepted t).mp hm)).imp_right (Or.imp_left (List.mem_cons_of_mem _))
      settled := fun t hm hp =>
        (h.settled t ((haccepted t).mp hm) hp).imp (Done.cons _) (CutShort.cons (by simp))
      history := ⟨fun u hu => Nat.lt_succ_of_le ((h.given u).mp hu).2, h.history⟩ }

/-- The owner takes the front of the ingress. Everything below it is dealt with. -/
theorem take {front : IngressItem L} {rest : List (IngressItem L)} (h : TicketFacts (front :: rest) last processed log)
    (ho : TicketsInHand none (front :: rest) processed log) :
    TicketFacts rest last processed (.taken front.ticket :: log) ∧
      TicketsInHand (some front.ticket) rest processed (.taken front.ticket :: log) := by
  have hstart : InRange (.taken front.ticket :: log) → TicketOrder (front :: rest) last processed log ∧
      (∀ t ∈ rest.map (·.ticket), front.ticket < t) ∧
      ∀ t, .accepted t ∈ log → t ≠ front.ticket → t ∉ rest.map (·.ticket) → Done t log ∧ t ≤ processed := fun hr => by
    have h := h hr.past
    refine ⟨h, (List.pairwise_cons.mp h.ascending).1, fun t ha hne hnot => (ho hr.past).2 t (by simp) ha ?_⟩
    simp only [List.map_cons, List.mem_cons, not_or]
    exact ⟨hne, hnot⟩
  have haccepted : ∀ t, .accepted t ∈ .taken front.ticket :: log ↔ .accepted t ∈ log := fun t => by simp
  constructor
  · intro hr
    obtain ⟨h, hbelow, hdone⟩ := hstart hr
    obtain ⟨hacc, htk, hdis⟩ := h.queued front.ticket List.mem_cons_self
    exact
      { ascending := (List.pairwise_cons.mp h.ascending).2
        ahead := fun t ht => h.ahead t (List.mem_cons_of_mem _ ht)
        queued := fun t ht => by
          obtain ⟨hacc', htk', hdis'⟩ := h.queued t (List.mem_cons_of_mem _ ht)
          rw [haccepted, discarded_cons (by simp)]
          have := hbelow t ht
          refine ⟨hacc', ?_, hdis'⟩
          simp only [List.mem_cons, TicketEvent.taken.injEq, htk', or_false]
          omega
        bound := h.bound
        total := h.total
        given := fun t => by rw [← h.given t, Given, Given, haccepted]; simp
        apart := fun t hm => by rw [haccepted] at hm; simp [h.apart t hm]
        reached := h.reached.imp_right (List.mem_cons_of_mem _)
        finished := fun t hm =>
          List.mem_cons_of_mem _ (h.finished t ((List.mem_cons.mp hm).resolve_left (by simp)))
        gone := fun t hm => by
          rw [discarded_cons (by simp)]
          rcases h.gone t ((haccepted t).mp hm) with hin | hrest
          · rcases List.mem_cons.mp hin with rfl | hin
            · exact Or.inr (Or.inl List.mem_cons_self)
            · exact Or.inl hin
          · exact Or.inr (hrest.imp_left (List.mem_cons_of_mem _))
        settled := fun t hm hp =>
          (h.settled t ((haccepted t).mp hm) hp).imp (Done.cons _) (CutShort.cons (by simp))
        history :=
          ⟨⟨hacc, htk, hdis, fun u hu ha => (hdone u ha (Nat.ne_of_lt hu) fun hin => by
            have := hbelow u hin; omega).1⟩, h.history⟩ }
  · intro hr
    obtain ⟨h, hbelow, hdone⟩ := hstart hr
    have hfin : .finished front.ticket ∉ log := fun hm =>
      (h.queued front.ticket List.mem_cons_self).2.1 (h.finished _ hm)
    refine ⟨fun t he => ?_, fun t hne hm hnot => ?_⟩
    · obtain rfl := Option.some.inj he
      exact ⟨List.mem_cons_self, by simp [hfin], hbelow⟩
    · obtain ⟨hd, hp⟩ := hdone t ((haccepted t).mp hm) (fun he => hne (congrArg some he.symm)) hnot
      exact ⟨hd.cons _, hp⟩

/-- The owner is done with the item it has in hand. -/
theorem finish {t₀ : Nat} (h : TicketFacts ingress last processed log) (ho : TicketsInHand (some t₀) ingress processed log) :
    TicketFacts ingress last (max processed t₀) (.finished t₀ :: log) ∧
      TicketsInHand none ingress (max processed t₀) (.finished t₀ :: log) := by
  have haccepted : ∀ t, .accepted t ∈ .finished t₀ :: log ↔ .accepted t ∈ log := fun t => by simp
  have hdone : InRange (.finished t₀ :: log) → ∀ t, .accepted t ∈ log → t ∉ ingress.map (·.ticket) →
      Done t (.finished t₀ :: log) ∧ t ≤ max processed t₀ := fun hr t ha hnot => by
    by_cases he : t = t₀
    · exact ⟨he ▸ Or.inl List.mem_cons_self, he ▸ Nat.le_max_right _ _⟩
    · obtain ⟨hd, hp⟩ := (ho hr.past).2 t (fun h => he (Option.some.inj h).symm) ha hnot
      exact ⟨hd.cons _, Nat.le_trans hp (Nat.le_max_left _ _)⟩
  constructor
  · intro hr
    have h := h hr.past
    obtain ⟨htk, hnf, hbelow⟩ := (ho hr.past).1 t₀ rfl
    have hacc := h.accepted_of_taken htk
    exact
      { ascending := h.ascending
        ahead := fun t ht => Nat.max_lt.mpr ⟨h.ahead t ht, hbelow t ht⟩
        queued := fun t ht => by
          rw [haccepted, discarded_cons (by simp)]
          obtain ⟨hacc, htk, hdis⟩ := h.queued t ht
          exact ⟨hacc, by simp [htk], hdis⟩
        bound := Nat.max_le.mpr ⟨h.bound, h.accepted_le hacc⟩
        total := h.total
        given := fun t => by rw [← h.given t, Given, Given, haccepted]; simp
        apart := fun t hm => by rw [haccepted] at hm; simp [h.apart t hm]
        reached := by
          rw [haccepted]
          rcases Nat.le_total t₀ processed with hle | hle
          · rw [Nat.max_eq_left hle]; exact h.reached
          · rw [Nat.max_eq_right hle]; exact Or.inr hacc
        finished := fun t hm => by
          rcases List.mem_cons.mp hm with he | hm
          · cases he; exact List.mem_cons_of_mem _ htk
          · exact List.mem_cons_of_mem _ (h.finished t hm)
        gone := fun t hm => by
          rw [discarded_cons (by simp)]
          exact (h.gone t ((haccepted t).mp hm)).imp_right (Or.imp_left (List.mem_cons_of_mem _))
        settled := fun t hm hp => by
          refine Or.inl (hdone hr t ((haccepted t).mp hm) fun hin => ?_).1
          have hlt := Nat.max_lt.mpr ⟨h.ahead t hin, hbelow t hin⟩
          omega
        history := ⟨⟨htk, hnf⟩, h.history⟩ }
  · exact fun hr => ⟨fun _ he => (by cases he), fun t _ hm hnot => hdone hr t ((haccepted t).mp hm) hnot⟩

/-- The item in hand is cut short by a discard. -/
theorem cutShort_of_discard {t₀ : Nat} {tickets : List Nat} {state : RuntimeState} {status : ProjectionStatus}
    (htk : .taken t₀ ∈ log) (hnf : .finished t₀ ∉ log) : CutShort t₀ (.discarded tickets state status :: log) := by
  obtain ⟨later, earlier, hs⟩ := List.append_of_mem htk
  exact ⟨by simp [hnf], _ :: later, earlier, _, _, _, by rw [hs]; rfl, List.mem_cons_self⟩

/-- A non-empty ingress is discarded: every ticket in it counts as processed. -/
theorem discard {item : Option Nat} {state : RuntimeState} {status : ProjectionStatus} {back : IngressItem L}
    (h : TicketFacts ingress last processed log) (ho : TicketsInHand item ingress processed log)
    (hb : ingress.getLast? = some back) (hs : state = .faulted ∨ status = .needsResync) :
    TicketFacts ([] : List (IngressItem L)) last (max processed back.ticket)
        (.discarded (ingress.map (·.ticket)) state status :: log) ∧
      TicketsInHand item ([] : List (IngressItem L)) (max processed back.ticket)
        (.discarded (ingress.map (·.ticket)) state status :: log) := by
  have haccepted : ∀ t, .accepted t ∈ .discarded (ingress.map (·.ticket)) state status :: log ↔ .accepted t ∈ log :=
    fun t => by simp
  have hnow : ∀ t ∈ ingress.map (·.ticket), Discarded t (.discarded (ingress.map (·.ticket)) state status :: log) :=
    fun t ht => ⟨_, _, _, List.mem_cons_self, ht⟩
  have hdone : InRange (.discarded (ingress.map (·.ticket)) state status :: log) → ∀ t, item ≠ some t → .accepted t ∈ log →
      Done t (.discarded (ingress.map (·.ticket)) state status :: log) ∧ t ≤ max processed back.ticket := fun hr t hi ha => by
    by_cases hin : t ∈ ingress.map (·.ticket)
    · exact ⟨Or.inr (hnow t hin), Nat.le_trans ((h hr.past).le_back hb hin) (Nat.le_max_right _ _)⟩
    · obtain ⟨hd, hp⟩ := (ho hr.past).2 t hi ha hin
      exact ⟨hd.cons _, Nat.le_trans hp (Nat.le_max_left _ _)⟩
  constructor
  · intro hr
    have h := h hr.past
    have hback : back.ticket ∈ ingress.map (·.ticket) := List.mem_map.mpr ⟨back, List.mem_of_getLast? hb, rfl⟩
    exact
      { ascending := List.Pairwise.nil
        ahead := fun t ht => by cases ht
        queued := fun t ht => by cases ht
        bound := Nat.max_le.mpr ⟨h.bound, h.le_last hback⟩
        total := h.total
        given := fun t => by rw [← h.given t, Given, Given, haccepted]; simp
        apart := fun t hm => by rw [haccepted] at hm; simp [h.apart t hm]
        reached := by
          rw [haccepted]
          rcases Nat.le_total back.ticket processed with hle | hle
          · rw [Nat.max_eq_left hle]; exact h.reached
          · rw [Nat.max_eq_right hle]; exact Or.inr (h.queued _ hback).1
        finished := fun t hm =>
          List.mem_cons_of_mem _ (h.finished t ((List.mem_cons.mp hm).resolve_left (by simp)))
        gone := fun t hm => by
          rcases h.gone t ((haccepted t).mp hm) with hin | htk | ⟨ts, st, pr, hm, ht⟩
          · exact Or.inr (Or.inr (hnow t hin))
          · exact Or.inr (Or.inl (List.mem_cons_of_mem _ htk))
          · exact Or.inr (Or.inr ⟨ts, st, pr, List.mem_cons_of_mem _ hm, ht⟩)
        settled := fun t hm _ => by
          by_cases hi : item = some t
          · obtain ⟨htk, hnf, -⟩ := (ho hr.past).1 t hi
            exact Or.inr (cutShort_of_discard htk hnf)
          · exact Or.inl (hdone hr t hi ((haccepted t).mp hm)).1
        history := ⟨⟨fun t ht => ⟨(h.queued t ht).1, (h.queued t ht).2.1⟩, hs⟩, h.history⟩ }
  · intro hr
    refine ⟨fun t he => ?_, fun t hi hm _ => hdone hr t hi ((haccepted t).mp hm)⟩
    obtain ⟨htk, hnf, -⟩ := (ho hr.past).1 t he
    exact ⟨List.mem_cons_of_mem _ htk, by simp [hnf], fun u hu => by cases hu⟩

end TicketFacts

/-! ## What the owner knows -/

namespace TicketsInHand

/-- An event that neither accepts an input nor ends the item in hand changes nothing of what the owner knows. -/
theorem log_cons {item : Option Nat} {e : TicketEvent} (h : TicketsInHand item ingress processed log)
    (ha : ∀ t, e ≠ .accepted t) (hf : ∀ t, e ≠ .finished t) : TicketsInHand item ingress processed (e :: log) := fun hr => by
  obtain ⟨hitem, hdone⟩ := h hr.past
  refine ⟨fun t he => ?_, fun t hi hm hnot => ?_⟩
  · obtain ⟨htk, hnf, hbelow⟩ := hitem t he
    exact ⟨List.mem_cons_of_mem _ htk, by simp [hnf, (hf t).symm], hbelow⟩
  · obtain ⟨hd, hp⟩ := hdone t hi ((List.mem_cons.mp hm).resolve_left (ha t).symm) hnot
    exact ⟨hd.cons _, hp⟩

/-- A new ticket goes behind whatever the owner has in hand. -/
theorem accept {item : Option Nat} (hf : TicketFacts ingress last processed log)
    (h : TicketsInHand item ingress processed log) (input : RuntimeInput L) :
    TicketsInHand item (ingress ++ [⟨(last + 1) % 2 ^ 64, input⟩]) processed (.accepted ((last + 1) % 2 ^ 64) :: log) :=
  fun hr => by
    obtain ⟨hitem, hdone⟩ := h hr.past
    have hf := hf hr.past
    rw [succ_mod_of_inRange hf.total hr]
    refine ⟨fun t he => ?_, fun t hi hm hnot => ?_⟩
    · obtain ⟨htk, hnf, hbelow⟩ := hitem t he
      refine ⟨List.mem_cons_of_mem _ htk, by simp [hnf], fun u hu => ?_⟩
      rw [List.map_append, List.mem_append] at hu
      rcases hu with hu | hu
      · exact hbelow u hu
      · simp only [List.map_cons, List.map_nil, List.mem_singleton] at hu
        exact hu ▸ Nat.lt_succ_of_le (hf.accepted_le (hf.accepted_of_taken htk))
    · rw [List.map_append, List.mem_append, not_or] at hnot
      rcases List.mem_cons.mp hm with he | hm
      · cases he; simp at hnot
      · obtain ⟨hd, hp⟩ := hdone t hi hm hnot.1
        exact ⟨hd.cons _, hp⟩

end TicketsInHand

/-! ## One item at a time -/

/-- No ticket is both taken and discarded. -/
theorem not_discarded_of_taken (h : Every TicketEvent.Allowed log) {t : Nat} (ht : .taken t ∈ log) : ¬Discarded t log := by
  induction log with
  | nil => cases ht
  | cons e past ih =>
    obtain ⟨he, hpast⟩ := h
    rintro ⟨tickets, state, status, hm, hin⟩
    rcases List.mem_cons.mp ht with rfl | htp
    · -- taken last: the discard is behind it
      have hm' := (List.mem_cons.mp hm).resolve_left (by simp)
      exact he.2.2.1 ⟨tickets, state, status, hm', hin⟩
    · rcases List.mem_cons.mp hm with rfl | hm
      · exact (he.1 t hin).2 htp
      · exact ih hpast htp ⟨tickets, state, status, hm, hin⟩

/-- A ticket that is accepted at all, below one that has been taken, was dealt with when that one was taken. -/
theorem done_of_taken (h : Every TicketEvent.Allowed log) {t u : Nat} (hlt : t < u) (hu : .taken u ∈ log)
    (ht : .accepted t ∈ log) : Done t log := by
  obtain ⟨later, past, rfl⟩ := List.append_of_mem hu
  obtain ⟨hacc, -, -, hlow⟩ := h.at_event rfl
  have hpast : .accepted t ∈ past := by
    rcases List.mem_append.mp ht with ht | ht
    · -- accepted after `u` was, its ticket would be above
      obtain ⟨a, b, rfl⟩ := List.append_of_mem ht
      have := @Every.at_event _ _ _ a (b ++ .taken u :: past) (.accepted t) h (by simp)
      have := this u (Or.inl (List.mem_append_right _ (List.mem_cons_of_mem _ hacc)))
      omega
    · exact (List.mem_cons.mp ht).resolve_left (by simp)
  rcases hlow t hlt hpast with hf | ⟨ts, st, pr, hm, hin⟩
  · exact Or.inl (List.mem_append_right _ (List.mem_cons_of_mem _ hf))
  · exact Or.inr ⟨ts, st, pr, List.mem_append_right _ (List.mem_cons_of_mem _ hm), hin⟩

/-- An item that is cut short had been taken. -/
theorem CutShort.taken {t : Nat} (h : CutShort t log) : .taken t ∈ log := by
  obtain ⟨-, later, earlier, ts, st, pr, hs, -⟩ := h
  rw [hs]
  exact List.mem_append_right _ List.mem_cons_self

/-- An item that is cut short is one that was accepted, and it is not dealt with. -/
theorem CutShort.not_done (h : Every TicketEvent.Allowed log) {t : Nat} (ht : CutShort t log) :
    .accepted t ∈ log ∧ ¬Done t log := by
  refine ⟨?_, fun hd => hd.elim ht.1 (not_discarded_of_taken h ht.taken)⟩
  obtain ⟨later, past, hs⟩ := List.append_of_mem ht.taken
  rw [hs]
  exact List.mem_append_right _ (List.mem_cons_of_mem _ (h.at_event hs).1)

/-- At most one item is cut short. -/
theorem CutShort.unique (h : Every TicketEvent.Allowed log) {t u : Nat} (ht : CutShort t log) (hu : CutShort u log) :
    t = u := by
  have hopen : ∀ v w, v < w → CutShort v log → CutShort w log → False := fun v w hlt hv hw => by
    obtain ⟨hacc, hopen⟩ := hv.not_done h
    exact hopen (done_of_taken h hlt hw.taken hacc)
  rcases Nat.lt_trichotomy t u with hlt | he | hgt
  · exact (hopen t u hlt ht hu).elim
  · exact he
  · exact (hopen u t hgt hu ht).elim

end MarketDataGateway.MarketRuntime
