import MarketDataGateway.Events.Calls
import MarketDataGateway.Lib.Next

/-!
# What event subscribers can rely on

A session delivers its acceptance and the events published for it since, without a hole, and at most a terminal behind them; a
source that is gone for good leaves what is queued to be read.
-/

namespace MarketDataGateway.Events

open Containers Threads Program EventPublication

variable {T : EventTypes} {setup : EventPublicationSetup} {s t : EventPublication T}
  {ph ph' : Phase (EventPublication T) (EventOutcome T)}

/-! ## Every section moves sessions -/

/-- From `s` to `t` every session has made a move, one of its writer only if `writer` holds. -/
structure Evolves (writer : Prop) (s t : EventPublication T) : Prop where
  address : s.nextAddress ≤ t.nextAddress
  sessions : ∀ (i : Nat) session, s.sessions[i]? = some session →
    ∃ session', t.sessions[i]? = some session' ∧ SessionMove writer True s.nextAddress t.nextAddress session session'
  fresh : ∀ (i : Nat) session', t.sessions[i]? = some session' → s.sessions[i]? = none → session'.delivered = []

variable {writer : Prop}

/-- With the sessions as they were nothing has evolved. -/
theorem Evolves.of_same (ha : t.nextAddress = s.nextAddress) (hs : t.sessions = s.sessions) : Evolves writer s t :=
  ⟨Nat.le_of_eq ha.symm, fun _ session h => ⟨session, hs ▸ h, .same⟩, fun i session' ht hn => by
    rw [hs, hn] at ht
    cases ht⟩

/-- A move of one session lets the publication evolve. -/
theorem Evolves.onSession (s : EventPublication T) (channel : Nat) (f : EventSession T → EventSession T)
    (hf : ∀ session, s.sessions[channel]? = some session →
      SessionMove writer True s.nextAddress s.nextAddress session (f session)) : Evolves writer s (s.onSession channel f) := by
  refine ⟨Nat.le_refl _, fun i session hs => ?_, fun i session' ht hn => ?_⟩
  · show ∃ session', (s.sessions.modify channel f)[i]? = some session' ∧ _
    rw [List.getElem?_modify, hs]
    by_cases hc : channel = i
    · subst hc
      exact ⟨f session, by simp, hf session hs⟩
    · exact ⟨session, by simp [hc], .same⟩
  · have ht' : (s.sessions.modify channel f)[i]? = some session' := ht
    rw [List.getElem?_modify, hn] at ht'
    cases ht'

/-- A writer's step lets the publication evolve. -/
theorem WriterStep.evolves (h : WriterStep s t) : Evolves True s t := by
  cases h with
  | peek channel => exact .onSession s channel _ fun _ _ => .peek trivial
  | @acknowledge channel session publication hs hp =>
    refine .onSession s channel _ fun session' hs' => .acknowledge trivial ?_
    rw [hs] at hs'
    exact Option.some.inj hs' ▸ hp
  | closeFromWriter channel => exact .onSession s channel _ fun _ _ => .closeFromWriter trivial

/-- Ending a session for a replacement lets the publication evolve. -/
theorem evolves_terminalizeReplaced (generation : Nat) (publishedAt : EventPublicationTime) (channel : Nat)
    (s : EventPublication T) : Evolves writer s (s.terminalizeReplaced generation publishedAt channel) := by
  refine .onSession s channel _ fun session _ => ?_
  split
  · exact .of_terminalizeReplacement session publishedAt _ _
  · exact .same

/-- Closing a session as unavailable lets the publication evolve. -/
theorem evolves_closeUnavailable (generation channel : Nat) (s : EventPublication T) :
    Evolves writer s (s.closeUnavailable generation channel) := by
  refine .onSession s channel _ fun session _ => ?_
  split
  · exact .of_closeUnavailable session _ _
  · exact .same

/-- Publishing to a session lets the publication evolve. -/
theorem evolves_publishTo (event : NormalizedMarketEvent T) (generation : Nat) (publishedAt : EventPublicationTime)
    (channel : Nat) (throws : Bool) (s : EventPublication T) :
    Evolves writer s (s.publishTo event generation publishedAt channel throws).2 := by
  unfold EventPublication.publishTo
  split
  · exact .of_same rfl rfl
  · rename_i session hs
    split
    · exact .of_same rfl rfl
    · have hal : (if throws then none else some s.nextAddress) = some s.nextAddress ∨
          (if throws then none else some s.nextAddress) = none := by cases throws <;> simp
      generalize (if throws then none else some s.nextAddress) = allocation at hal
      have hset : Evolves writer s { s with
          sessions := s.sessions.set channel (session.admitEvent event publishedAt allocation).2
          nextAddress := s.nextAddress + 1 } := by
        refine ⟨Nat.le_succ _, fun i found hf => ?_, fun i found hf hn => ?_⟩
        · show ∃ session', (s.sessions.set channel _)[i]? = some session' ∧ _
          rw [List.getElem?_set]
          by_cases hc : channel = i
          · subst hc
            obtain rfl := Option.some.inj (hs.symm.trans hf)
            have hlt := (List.getElem?_eq_some_iff.mp hs).1
            refine ⟨_, by rw [if_pos rfl, if_pos hlt], ?_⟩
            exact .of_admitEvent session event publishedAt (Nat.lt_succ_self _) hal
          · exact ⟨found, by rw [if_neg hc]; exact hf, .same⟩
        · rcases getElem?_set_cases hf with ⟨rfl, -⟩ | ⟨-, ho⟩
          · rw [hs] at hn
            cases hn
          · rw [hn] at ho
            cases ho
      dsimp only
      split
      · exact ⟨hset.address, hset.sessions, hset.fresh⟩
      · exact hset

/-- Admitting a session lets the publication evolve. -/
theorem evolves_admitLocked (subscription : ValidatedEventSubscription) (publishedAt : EventPublicationTime) (throws : Bool)
    (s : EventPublication T) : Evolves writer s (s.admitLocked setup subscription publishedAt throws).2 := by
  have henroll : ∀ generation session, session.delivered = [] → Evolves writer s (s.enroll subscription generation session) := by
    intro generation session hd
    refine ⟨Nat.le_succ _, fun i found hs => ⟨found, ?_, .same⟩, fun i found hf hn => ?_⟩
    · show (s.sessions ++ [session])[i]? = some found
      rw [List.getElem?_append_left (List.getElem?_eq_some_iff.mp hs).1]
      exact hs
    · have hf' : (s.sessions ++ [session])[i]? = some found := hf
      rw [List.getElem?_append_right (List.getElem?_eq_none_iff.mp hn)] at hf'
      obtain ⟨hlt, rfl⟩ := List.getElem?_eq_some_iff.mp hf'
      have h0 : i - s.sessions.length = 0 := by simpa using hlt
      simp only [h0, List.getElem_cons_zero]
      exact hd
  unfold EventPublication.admitLocked
  split
  · exact .of_same rfl rfl
  · split
    · exact .of_same rfl rfl
    · split
      · exact .of_same rfl rfl
      · split_ifs
        iterate 3 exact .of_same rfl rfl
        dsimp only
        split
        · exact .of_same rfl rfl
        · split
          · exact henroll _ _ rfl
          · exact .of_same rfl rfl

/-- A loop over the sessions lets the publication evolve. -/
theorem sections_forEach {f : Nat → EventPublication T → EventPublication T} (hf : ∀ channel s, Evolves writer s (f channel s)) :
    ((do
      let channels ← read (·.channels)
      forEach channels fun channel => modify (f channel)) : EventProgram T Unit).All (Evolves writer) :=
  All.bind (All.atomic fun _ _ => .of_same rfl rfl) fun _ => All.forEach fun channel => All.atomic fun _ s => hf channel s

/-- Publishing to all sessions lets the publication evolve. -/
theorem sections_publishToAll (event : NormalizedMarketEvent T) (generation : Nat) (publishedAt : EventPublicationTime)
    (channels : List Nat) : (publishToAll event generation publishedAt channels).All (Evolves writer) := by
  induction channels with
  | nil => exact All.bind (All.atomic fun _ _ => .of_same rfl rfl) fun _ => trivial
  | cons channel rest ih =>
    refine All.bind (All.atomic fun w s => evolves_publishTo event generation publishedAt channel w.throws s) fun result => ?_
    split
    · trivial
    · exact ih

/-- So does a call of publish. -/
theorem sections_publish (event : Option (NormalizedMarketEvent T)) (generation : Nat) :
    (publish event generation).All (Evolves writer) := by
  cases event with
  | none => trivial
  | some event =>
    refine All.bind (All.atomic fun _ _ => .of_same rfl rfl) fun sampled => ?_
    cases sampled with
    | none => trivial
    | some publishedAt =>
      refine All.bind (All.atomic fun _ s => ?_) fun refusal => ?_
      · show Evolves writer s (s.beginPublish event generation).2
        unfold EventPublication.beginPublish
        split_ifs <;> exact .of_same rfl rfl
      · cases refusal with
        | some _ => trivial
        | none =>
          exact All.bind (All.atomic fun _ _ => .of_same rfl rfl) fun channels =>
            sections_publishToAll event generation publishedAt channels

/-- So does a close for a replacement. -/
theorem sections_closeGenerationReplaced (generation : Nat) :
    (closeGenerationReplaced generation : EventProgram T Bool).All (Evolves writer) := by
  refine All.bind (All.atomic fun _ _ => .of_same rfl rfl) fun sampled => ?_
  cases sampled with
  | none => trivial
  | some publishedAt =>
    refine All.bind (All.atomic fun _ _ => .of_same rfl rfl) fun quiesced => ?_
    split
    · exact All.bind (sections_forEach (evolves_terminalizeReplaced generation publishedAt)) fun _ =>
        All.bind (All.atomic fun _ _ => .of_same rfl rfl) fun _ => trivial
    · trivial

/-- So does a close for good. -/
theorem sections_closeGenerationPermanently (generation : Nat) :
    (closeGenerationPermanently generation : EventProgram T Bool).All (Evolves writer) := by
  refine All.bind (All.atomic fun _ _ => .of_same rfl rfl) fun quiesced => ?_
  split
  · exact All.bind (All.atomic fun _ _ => .of_same rfl rfl) fun _ => All.bind
      (All.forEach fun channel => All.atomic fun _ s => evolves_closeUnavailable generation channel s) fun _ =>
        All.bind (All.atomic fun _ _ => .of_same rfl rfl) fun _ => trivial
  · trivial

/-- So does a shutdown. -/
theorem sections_shutdown : (shutdown : EventProgram T Unit).All (Evolves writer) := by
  refine All.bind (All.atomic fun _ s => ?_) fun first => ?_
  · show Evolves writer s s.beginShutdown.2
    unfold EventPublication.beginShutdown
    split <;> exact .of_same rfl rfl
  · split
    · exact sections_forEach fun channel s => .onSession s channel _ fun _ _ => .closeFromOwner trivial
    · trivial

/-- Every section of every call moves sessions and does nothing else to them. -/
theorem sections_callRound : (callRound setup : EventProgram T Bool).All (Evolves writer) := by
  have single : ∀ {α : Type} {f : EventPublication T → α × EventPublication T}, (∀ s, Evolves writer s (f s).2) →
      (Program.bind (Program.atomic fun _ s => f s : EventProgram T α) fun _ => pure true).All (Evolves writer) := fun hf =>
    All.bind (All.atomic fun _ s => hf s) fun _ => trivial
  refine All.bind (All.atomic fun _ _ => .of_same rfl rfl) fun call => ?_
  cases call with
  | openGeneration generation =>
    refine single fun s => ?_
    unfold EventPublication.openGeneration
    split <;> exact .of_same rfl rfl
  | quiesceGeneration generation =>
    refine single fun s => ?_
    unfold EventPublication.quiesceGeneration
    split <;> exact .of_same rfl rfl
  | closeGenerationReplaced generation => exact All.bind (sections_closeGenerationReplaced generation) fun _ => trivial
  | closeGenerationPermanently generation => exact All.bind (sections_closeGenerationPermanently generation) fun _ => trivial
  | admitSubscription subscription =>
    refine All.bind (All.bind (All.atomic fun _ _ => .of_same rfl rfl) fun sampled => ?_) fun _ => trivial
    cases sampled with
    | none => trivial
    | some publishedAt => exact All.atomic fun w s => evolves_admitLocked subscription publishedAt w.throws s
  | publish event generation => exact All.bind (sections_publish event generation) fun _ => trivial
  | remove channel =>
    refine All.bind ?_ fun _ => trivial
    cases channel with
    | none => trivial
    | some channel => exact All.atomic fun _ _ => .of_same rfl rfl
  | shutdown => exact All.bind sections_shutdown fun _ => trivial

/-- Whatever is left of a call lets the publication evolve. -/
theorem Reachable.sections (h : Reachable setup ph s) : PhaseAll (Evolves writer) ph := by
  induction h with
  | initial => trivial
  | step _ hs ih => exact (LoopStep.guarantee sections_callRound ih hs).2

/-- One step of a run moves sessions. -/
theorem Reachable.evolves (h : Reachable setup ph s) (hs : RunStep setup ph s ph' t) : Evolves True s t := by
  have hp : PhaseAll (Evolves True) ph := h.sections
  rcases (LoopStep.guarantee sections_callRound hp hs).1 with he | he | rfl
  · exact WriterStep.evolves he
  · exact he
  · exact .of_same rfl rfl

/-- Along a run every session ages. -/
theorem Run.ages (hr : Reachable setup ph s) (h : Run setup ph s ph' t) {i : Nat} {session : EventSession T}
    (hs : s.sessions[i]? = some session) : ∃ session', t.sessions[i]? = some session' ∧ Ages session session' := by
  induction h with
  | none => exact ⟨session, hs, .refl (hr.feed.inv.facts i session hs)⟩
  | step h' hstep ih =>
    obtain ⟨session', ht, ha⟩ := ih
    have hreach := h'.reachable hr
    obtain ⟨session'', ht', hm⟩ := (hreach.evolves hstep).sessions i session' ht
    exact ⟨session'', ht', ha.trans (hm.ages (hreach.feed.inv.facts i session' ht))⟩

/-! ## A source that leaves for good -/

/-- What becomes of a session while the source leaves it for good: it gets no record and no terminal, and only its writer closes it. -/
structure Spared (s t : EventSession T) : Prop where
  admitted : t.admitted = s.admitted
  generation : t.channel.sourceGeneration = s.channel.sourceGeneration
  noTerminal : t.deliveredTerminal = none
  state : t.channel.state = .active ∨ t.channel.state = .terminalUnavailable ∨ (t.channel.state = .closed ∧ t.writerClosed = true)

section Spared

variable {first session : EventSession T} {n i : Nat}

/-- An active session is spared so far. -/
theorem Spared.refl (hf : SessionFacts n session) (ha : session.channel.state = .active) : Spared session session :=
  ⟨rfl, rfl, (hf.opened (by rw [ha]; simp)).2, Or.inl ha⟩

/-- Nothing but a record is ever acknowledged, as there is no terminal. -/
theorem Spared.acknowledge (h : Spared first session) (hf : SessionFacts n session) (publication : PeekedEventPublication T) :
    Spared first (session.acknowledge publication) := by
  rcases session.acknowledge_cases publication with ⟨_, _, _, -, -, -, -, -, he⟩ | ⟨d, hopen, -, hterminal, -⟩ | he
  · rw [he]
    exact ⟨h.admitted, h.generation, h.noTerminal, h.state⟩
  · rcases h.state with ha | hu | ⟨hc, -⟩
    · rw [(hf.active ha).1] at hterminal
      cases hterminal
    · rw [hf.unavailable hu] at hterminal
      cases hterminal
    · exact absurd hc hopen
  · rw [he]
    exact h

/-- A spared session stays so when it is closed as unavailable. -/
theorem Spared.closeUnavailable (h : Spared first session) :
    Spared first { session with channel := session.channel.closeUnavailable.2 } ∧
      session.channel.closeUnavailable.2.state ≠ .active := by
  rcases session.channel.closeUnavailable_cases with ⟨hne, he⟩ | ⟨-, he⟩
  · rw [he]
    exact ⟨h, hne⟩
  · rw [he]
    exact ⟨⟨h.admitted, h.generation, h.noTerminal, Or.inr (Or.inl rfl)⟩, by simp⟩

/-- There is such a session at the place `i`. -/
def Holding (i : Nat) (P : EventSession T → Prop) (s : EventPublication T) : Prop :=
  ∃ session, s.sessions[i]? = some session ∧ SessionFacts s.nextAddress session ∧ P session

variable {P Q : EventSession T → Prop}

/-- What is known of one session is known behind a move of another one, or its own. -/
theorem Holding.onSession (h : Holding i P s) (channel : Nat) (f : EventSession T → EventSession T)
    (hkept : channel ≠ i → ∀ session, P session → Q session)
    (hmoved : channel = i → ∀ session, s.sessions[i]? = some session → SessionFacts s.nextAddress session → P session →
      SessionFacts s.nextAddress (f session) ∧ Q (f session)) : Holding i Q (s.onSession channel f) := by
  obtain ⟨session, hs, hf, hp⟩ := h
  have hget : (s.onSession channel f).sessions[i]? = (s.sessions[i]?).map (if channel = i then f else id) := by
    show (s.sessions.modify channel f)[i]? = _
    rw [List.getElem?_modify]
    split <;> simp
  rw [hs] at hget
  by_cases hc : channel = i
  · rw [if_pos hc] at hget
    exact ⟨f session, hget, hmoved hc session hs hf hp⟩
  · rw [if_neg hc] at hget
    exact ⟨session, hget, hf, hkept hc session hp⟩

/-- Writers leave a spared session spared, and do not revive it. -/
theorem WriterStep.holding (h : WriterStep s t) (inactive : Prop)
    (hs : Holding i (fun session => Spared first session ∧ (inactive → session.channel.state ≠ .active)) s) :
    Holding i (fun session => Spared first session ∧ (inactive → session.channel.state ≠ .active)) t := by
  have hquiet : ∀ session session' : EventSession T, SessionMove True False 0 0 session session' →
      (inactive → session.channel.state ≠ .active) → inactive → session'.channel.state ≠ .active :=
    fun session session' hm hne hi ha => hne hi (hm.quiet.2.2.2.2 ha)
  cases h with
  | peek channel =>
    refine hs.onSession channel _ (fun _ _ hp => hp) fun _ session _ hf hp => ⟨hf.peek, ?_, hquiet _ _ (.peek trivial) hp.2⟩
    exact ⟨hp.1.admitted, hp.1.generation, hp.1.noTerminal, hp.1.state⟩
  | @acknowledge channel found publication hfound hpeeked =>
    refine hs.onSession channel _ (fun _ _ hp => hp) fun hc session hget hf hp => ?_
    subst hc
    obtain rfl := Option.some.inj (hfound.symm.trans hget)
    exact ⟨hf.acknowledge hpeeked, hp.1.acknowledge hf publication, hquiet _ _ (.acknowledge trivial hpeeked) hp.2⟩
  | closeFromWriter channel =>
    refine hs.onSession channel _ (fun _ _ hp => hp) fun _ session _ hf hp =>
      ⟨hf.closeFromWriter, ?_, hquiet _ _ (.closeFromWriter trivial) hp.2⟩
    exact ⟨hp.1.admitted, hp.1.generation, hp.1.noTerminal, Or.inr (Or.inr ⟨rfl, rfl⟩)⟩

/-- The writers go on while a call is made. -/
def callRely : Rely (EventPublication T) where
  env := WriterStep
  inv _ := True
  inv_env _ _ _ _ := trivial

/-- The session is spared, and has been left behind once `inactive` holds. -/
def SparedAt (i : Nat) (first : EventSession T) (inactive : Prop) : EventPublication T → Prop :=
  Holding i fun session => Spared first session ∧ (inactive → session.channel.state ≠ .active)

/-- Writers spare the session further. -/
theorem stable_sparedAt (inactive : Prop) : callRely.Stable (SparedAt i first inactive) := fun _ _ _ hs h => h.holding inactive hs

/-- The section of the close on one channel. Once the session's own channel is behind, the session has been left. -/
theorem closeUnavailable_sparedAt {channel : Nat} {rest : List Nat} (h : SparedAt i first (i ∉ channel :: rest) s) :
    SparedAt i first (i ∉ rest) (s.closeUnavailable first.channel.sourceGeneration channel) := by
  refine h.onSession channel _ (fun hc session hp => ⟨hp.1, fun hr => hp.2 ?_⟩) fun _ session _ hf hp => ?_
  · simpa [hr] using Ne.symm hc
  · rw [if_pos hp.1.generation]
    refine ⟨?_, hp.1.closeUnavailable.1, fun _ => hp.1.closeUnavailable.2⟩
    have hmove : SessionMove True True s.nextAddress s.nextAddress session { session with channel := session.channel.closeUnavailable.2 } :=
      .of_closeUnavailable session _ _
    exact hf.move (Nat.le_refl _) hmove

/-- A permanent close that returns true leaves every session it has listed behind. -/
theorem closeGenerationPermanently_spares :
    Triple callRely (fun s => SparedAt i first False s ∧ i ∈ s.channels)
      (closeGenerationPermanently first.channel.sourceGeneration : EventProgram T Bool)
      (fun closed => SparedAt i first (closed = true)) := by
  have hlisted : callRely.Stable fun s : EventPublication T => SparedAt i first False s ∧ i ∈ s.channels :=
    (stable_sparedAt False).and fun s t _ hin h => by cases h <;> exact hin
  have hweaken : ∀ {inactive inactive' : Prop} {s : EventPublication T}, (inactive' → inactive) → SparedAt i first inactive s →
      SparedAt i first inactive' s := fun himp ⟨session, hs, hf, hp, hne⟩ => ⟨session, hs, hf, hp, hne ∘ himp⟩
  refine Triple.bind (Q := fun _ s => SparedAt i first False s ∧ i ∈ s.channels) (Triple.read hlisted (fun _ => hlisted) fun _ _ h => h)
    fun quiesced => ?_
  cases quiesced with
  | false => exact Triple.done hlisted fun _ _ h => hweaken (by simp) h.1
  | true =>
    refine Triple.bind (Q := fun channels => SparedAt i first (i ∉ channels)) (Triple.read hlisted (fun _ => stable_sparedAt _)
      fun s _ h => hweaken (fun hn => hn h.2) h.1) fun channels => ?_
    refine Triple.bind (Triple.forEach (I := fun rest => SparedAt i first (i ∉ rest)) (stable_sparedAt _) (fun channel rest => ?_) channels)
      fun _ => ?_
    · exact Triple.modify (stable_sparedAt _) (stable_sparedAt _) fun s _ h => ⟨trivial, closeUnavailable_sparedAt h⟩
    · exact Triple.bind (Q := fun _ => SparedAt i first True) (Triple.modify (stable_sparedAt _) (stable_sparedAt _)
        fun s _ h => ⟨trivial, hweaken (fun _ => List.not_mem_nil) h⟩) fun _ =>
          Triple.done (stable_sparedAt _) fun _ _ h => hweaken (fun _ => trivial) h

end Spared

/-- A call that is made between two calls is part of the run. -/
theorem Run.call {α : Type} {p q : EventProgram T α} {k : α → EventProgram T Bool} {call : EventPublicationCall T}
    (hcall : perform setup call = p.bind k) (h : Runs WriterStep p s q t) : Run setup .head s (.running (q.bind k)) t := by
  induction h with
  | @refl s =>
    have henter : Program.Step (Program.sect (fun _ => true) (fun _ s => s) fun w _ => perform setup w.call) s (perform setup call) s :=
      .sect (⟨call, Option.none, false⟩ : EventOutcome T) rfl
    rw [← hcall]
    exact .step .none (.enter henter)
  | env _ he ih => exact .step ih (.env he)
  | step _ hs ih => exact .step ih (.run (hs.bind k))

/-! ## Sessions -/

/-- The first record of a session and the events behind it, as far as they have been published. -/
def deliverable (setup : EventPublicationSetup) (subscription : ValidatedEventSubscription) (i : Nat)
    (c : EventSubscriberChannel T) (publishedAt : EventPublicationTime) (s : EventPublication T) : List (EventContent T) :=
  sessionContent (makeAcceptedRecord subscription c.subscriptionId setup.gatewayInstanceId publishedAt) c.sourceGeneration
    (s.expected [] i c)

/-- An event in the content of a session was published, under its generation. -/
theorem event_of_eventsContent {generation n : Nat} {events : List (NormalizedMarketEvent T)} {r : EventPublicationRecord T}
    {event : NormalizedMarketEvent T} (hp : r.payload = .event event)
    (h : eventContent r ∈ eventsContent generation n events) : event ∈ events ∧ r.connectionGeneration = some generation := by
  induction events generalizing n with
  | nil => cases h
  | cons e rest ih =>
    rcases List.mem_cons.mp h with he | hm
    · simp only [eventContent, hp, Prod.mk.injEq, EventOrdinaryPayload.event.injEq] at he
      exact ⟨he.2.2 ▸ List.mem_cons_self, he.2.1⟩
    · obtain ⟨hin, hg⟩ := ih hm
      exact ⟨List.mem_cons_of_mem _ hin, hg⟩

/-- The events in a session are those it is made of, under its own generation. -/
theorem event_of_sessionContent {subscription : ValidatedEventSubscription} {id instanceId : String}
    {publishedAt : EventPublicationTime} {generation : Nat} {events : List (NormalizedMarketEvent T)}
    {r : EventPublicationRecord T} {event : NormalizedMarketEvent T} (hp : r.payload = .event event)
    (h : eventContent r ∈
      sessionContent (makeAcceptedRecord subscription id instanceId publishedAt) generation events) :
    event ∈ events ∧ r.connectionGeneration = some generation := by
  rcases List.mem_cons.mp h with he | hm
  · simp [eventContent, makeAcceptedRecord, hp] at he
  · exact event_of_eventsContent hp hm

/-- What is expected of a session is of its stream. -/
theorem stream_of_expected {missing : List Nat} {i : Nat} {c : EventSubscriberChannel T} {event : NormalizedMarketEvent T}
    (h : event ∈ s.expected missing i c) : normalizedEventStream event = c.stream := by
  rcases List.mem_append.mp h with h | h
  · exact (publishedSince_stream h).1
  · split at h
    · cases h
    · unfold inFlight at h
      split at h
      · split at h
        · rename_i hm
          rw [List.mem_singleton.mp h]
          exact hm.1
        · cases h
      · cases h

/-- What a session has delivered is a prefix of its acceptance and the events of its stream and generation published since its
admission, the one in flight included; between two calls a listed active session has all of them delivered or queued. A delivered
terminal carries the next sequence, ends the session and says why. A session that the source has left for good keeps all it holds
until it is closed by its writer or by a shutdown, and never delivers a terminal. Opened generations increase, and a source that is
shut down or closed permanently opens, admits and publishes nothing more.

A permanent close, with the writers at work meanwhile, makes each listed session of its generation that was active such a session, with
all it held, unless the writer has closed it. -/
theorem event_session_integrity (h : Reachable setup ph s) :
    (∀ (i : Nat) session, s.sessions[i]? = some session →
      (∃ subscription publishedAt, .subscribed i subscription session.channel.sourceGeneration ∈ s.log ∧
        session.channel.stream = subscription.stream ∧
        (Intact s.log → session.delivered.map eventContent <+:
          deliverable setup subscription i session.channel publishedAt s)) ∧
      (Intact s.log → ∀ r ∈ session.delivered, ∀ event, r.payload = .event event →
        normalizedEventStream event = session.channel.stream ∧
          r.connectionGeneration = some session.channel.sourceGeneration) ∧
      (Intact s.log → ph = .head → i ∈ s.channels → session.channel.state = .active →
        ∃ subscription publishedAt, session.records.map eventContent =
          deliverable setup subscription i session.channel publishedAt s) ∧
      (∀ d, session.deliveredTerminal = some d → session.channel.state = .closed ∧
        EndsAfter session.channel.sourceGeneration session.delivered.length d) ∧
      (session.channel.state ≠ .closed → session.records = session.admitted)) ∧
    (ph = .head → s.publishing = none) ∧
    (∀ ph' t, Run setup ph s ph' t → ∀ (i : Nat) session, s.sessions[i]? = some session →
      ∃ session', t.sessions[i]? = some session' ∧
        (session.channel.state ≠ .active → session'.channel.state ≠ .active ∧ session'.admitted = session.admitted) ∧
        (session.channel.state = .closed →
          session'.delivered = session.delivered ∧ session'.deliveredTerminal = session.deliveredTerminal) ∧
        (session.channel.state = .terminalUnavailable → session'.deliveredTerminal = none ∧
          (session'.channel.state = .terminalUnavailable ∧ session'.records = session.records ∧
              session'.channel.terminal = none ∨
            session'.channel.state = .closed ∧ (session'.writerClosed = true ∨ .shutdown ∈ t.log)))) ∧
    (∀ generation t, ph = .head → Runs WriterStep (closeGenerationPermanently generation) s (.done true) t →
      Run setup ph s (.running (.done true)) t ∧
      ∀ i ∈ s.channels, ∀ session, s.sessions[i]? = some session → session.channel.state = .active →
        session.channel.sourceGeneration = generation →
        ∃ session', t.sessions[i]? = some session' ∧ session'.deliveredTerminal = none ∧
          (session'.channel.state = .terminalUnavailable ∧ session'.records = session.records ∧ session'.channel.terminal = none ∨
            session'.channel.state = .closed ∧ session'.writerClosed = true)) ∧
    Every EventSourceEvent.InOrder s.log := by
  have hi : FeedInv setup s := h.feed.inv
  refine ⟨fun i session hs => ⟨?_, fun hint r hr event hp => ?_, fun hint hph hin hact => ?_, (hi.facts i session hs).ended, fun hc => ?_⟩, fun hph => ?_,
    fun ph' t hrun i session hs => ?_, fun generation t hph hruns => ?_, hi.lifecycle.chronicle⟩
  · obtain ⟨events, ⟨subscription, publishedAt, hm, hsm, hc⟩, hp⟩ := hi.carries i session hs
    refine ⟨subscription, publishedAt, hm, hsm, fun hint => ?_⟩
    exact (((hi.facts i session hs).delivered.map eventContent).trans (hc ▸ List.prefix_refl _)).trans
      (sessionContent_mono _ _ (hp hint))
  · obtain ⟨events, ⟨subscription, publishedAt, -, -, hc⟩, hpre⟩ := hi.carries i session hs
    have hmem : eventContent r ∈ session.admitted.map eventContent :=
      List.mem_map_of_mem ((hi.facts i session hs).delivered.subset hr)
    rw [hc] at hmem
    obtain ⟨hin, hgen⟩ := event_of_sessionContent hp hmem
    exact ⟨stream_of_expected ((hpre hint).subset hin), hgen⟩
  · subst hph
    have hrest : AtRest setup s := h.feed.2
    obtain ⟨subscription, publishedAt, -, -, hc⟩ := hrest.2 hint i session hs hin hact
    have hf := hi.facts i session hs
    rw [hf.records_of_open (by rw [hact]; simp)]
    exact ⟨subscription, publishedAt, hc⟩
  · exact (hi.facts i session hs).records_of_open hc
  · subst hph
    have hrest : AtRest setup s := h.feed.2
    exact hrest.1
  · obtain ⟨session', ht, ha⟩ := hrun.ages h hs
    have hi' : FeedInv setup t := (hrun.reachable h).feed.inv
    have hf := hi.facts i session hs
    have hf' := hi'.facts i session' ht
    refine ⟨session', ht, ha.inactive, fun hc => (ha.closed hc).2, fun hu => ⟨ha.noTerminal (Or.inl hu), ?_⟩⟩
    rcases ha.unavailable hu with hu' | hc'
    · refine Or.inl ⟨hu', ?_, hf'.unavailable hu'⟩
      rw [hf'.records_of_open (by rw [hu']; simp), hf.records_of_open (by rw [hu]; simp)]
      exact (ha.inactive (by rw [hu]; simp)).2
    · refine Or.inr ⟨hc', ?_⟩
      rcases hi'.closedBy i session' ht hc' with hw | hd | hshut
      · exact Or.inl hw
      · exact absurd (ha.noTerminal (Or.inl hu)) hd
      · exact Or.inr hshut
  · subst hph
    have hcall : perform setup (.closeGenerationPermanently generation : EventPublicationCall T) =
        (closeGenerationPermanently generation).bind fun _ => pure true := rfl
    refine ⟨Run.call hcall hruns, ?_⟩
    rintro i hin session hs ha rfl
    have hf := hi.facts i session hs
    have hstart : SparedAt i session False s := ⟨session, hs, hf, .refl hf ha, False.elim⟩
    have hsafe := closeGenerationPermanently_spares (i := i) s trivial ⟨hstart, hin⟩
    obtain ⟨session', ht, hf', hspared, hleft⟩ := (Runs.safe (E := callRely) hruns hsafe).post
    refine ⟨session', ht, hspared.noTerminal, ?_⟩
    rcases hspared.state with ha' | hu | hc
    · exact absurd ha' (hleft rfl)
    · refine Or.inl ⟨hu, ?_, hf'.unavailable hu⟩
      rw [hf'.records_of_open (by rw [hu]; simp), hf.records_of_open (by rw [ha]; simp)]
      exact hspared.admitted
    · exact Or.inr hc

/-! ## A publication at work -/

/-- Events that are numbers. -/
def numberTypes : EventTypes := ⟨Nat, Nat, Nat⟩

def numberSetup : EventPublicationSetup where
  gatewayInstanceId := "gateway"
  limits := {}
  named := by decide
  subscriptions := by decide
  capacity := by decide

/-- A configuration of a publication of numbers. -/
abbrev NumberConfig := Phase (EventPublication numberTypes) (EventOutcome numberTypes) × EventPublication numberTypes

namespace NumberConfig

/-- A call is made, with no time passing and no failure. -/
def call (c : EventPublicationCall numberTypes) (p : NumberConfig) : NumberConfig :=
  Phase.round (callRound numberSetup) ⟨c, some ⟨1, none⟩, false⟩ 40 p

/-- The writer of the first session makes a move. -/
def write (f : EventSession numberTypes → EventSession numberTypes) (p : NumberConfig) : NumberConfig :=
  (p.1, p.2.onSession 0 f)

/-- What the writer of the first session sees. -/
def front (p : NumberConfig) : PeekedEventPublication numberTypes :=
  match p.2.sessions with
  | [] => {}
  | session :: _ => session.channel.peek

def Reached (p : NumberConfig) : Prop := Reachable numberSetup p.1 p.2

/-- A call leads from a place that is reached to another one. -/
theorem Reached.call {p : NumberConfig} (h : p.Reached) (c : EventPublicationCall numberTypes) : (p.call c).Reached :=
  Phase.round_induction (fun _ _ _ _ hr hs => .step hr hs) _ _ h

/-- So does a step of the writer. -/
theorem Reached.write {p : NumberConfig} (h : p.Reached) {f : EventSession numberTypes → EventSession numberTypes}
    (hf : WriterStep p.2 (p.2.onSession 0 f)) : (p.write f).Reached :=
  Reachable.step h (.env hf)

end NumberConfig

/-- The writer of the first session takes what it sees and acknowledges it. -/
def NumberConfig.take (p : NumberConfig) : NumberConfig := (p.write (·.peek)).write (·.acknowledge p.front)

/-- So does a record that the writer takes. -/
theorem NumberConfig.Reached.take {p : NumberConfig} (h : p.Reached) (hs : p.2.sessions ≠ []) : p.take.Reached := by
  refine (h.write (.peek 0)).write ?_
  obtain ⟨ph, s⟩ := p
  cases hl : s.sessions with
  | nil => exact absurd hl hs
  | cons session rest =>
    have hfirst : (s.onSession 0 (·.peek)).sessions[0]? = some session.peek := by
      simp [EventPublication.onSession, hl]
    have hfront : NumberConfig.front (ph, s) = session.channel.peek := by simp [NumberConfig.front, hl]
    rw [hfront]
    exact .acknowledge hfirst List.mem_cons_self

def depthNumber (n : Nat) : NormalizedMarketEvent numberTypes := .depthUpdate n

def tradeNumber (n : Nat) : NormalizedMarketEvent numberTypes := .aggTrade n

/-- A publication as it is constructed. -/
def numbersInitial : NumberConfig := (.head, {})

/-- The first generation is open and has one subscriber. -/
def numbersOpen : NumberConfig :=
  (numbersInitial.call (.openGeneration 1)).call (.admitSubscription ⟨"r", .diffDepth, "depth-update.v1"⟩)

theorem numbersOpen_reached : numbersOpen.Reached :=
  (NumberConfig.Reached.call (p := numbersInitial) .initial _).call _

/-- Two events are published, one of them of the subscriber's stream. -/
def numbersPublished : NumberConfig :=
  (numbersOpen.call (.publish (some (depthNumber 7)) 1)).call (.publish (some (tradeNumber 8)) 1)

/-- The writer has delivered the acceptance and the event. -/
def numbersDelivered : NumberConfig := numbersPublished.take.take

theorem numbersPublished_reached : numbersPublished.Reached := (numbersOpen_reached.call _).call _

theorem numbersDelivered_reached : numbersDelivered.Reached :=
  (numbersPublished_reached.take (List.cons_ne_nil _ _)).take (List.cons_ne_nil _ _)

/-- The session has delivered its acceptance and a number. -/
theorem event_session_integrity_delivered : ∃ session, numbersDelivered.2.sessions[0]? = some session ∧
    session.delivered.length = 2 ∧
    ∃ subscription publishedAt, session.delivered.map eventContent <+:
      deliverable numberSetup subscription 0 session.channel publishedAt numbersDelivered.2 := by
  have hsession : ∃ session, numbersDelivered.2.sessions[0]? = some session ∧ session.delivered.length = 2 :=
    ⟨_, rfl, rfl⟩
  obtain ⟨session, hs, hlen⟩ := hsession
  obtain ⟨hsessions, -⟩ := event_session_integrity numbersDelivered_reached
  obtain ⟨⟨subscription, publishedAt, -, -, hprefix⟩, -⟩ := hsessions 0 session hs
  refine ⟨session, hs, hlen, subscription, publishedAt, hprefix fun channel hm => ?_⟩
  have hlog : numbersDelivered.2.log = [.published (tradeNumber 8) 1, .published (depthNumber 7) 1,
    .subscribed 0 ⟨"r", .diffDepth, "depth-update.v1"⟩ 1, .opened 1] := rfl
  rw [hlog] at hm
  simp at hm

end MarketDataGateway.Events
