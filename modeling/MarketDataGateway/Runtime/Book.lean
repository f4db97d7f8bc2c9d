import Mathlib.Data.List.Perm.Subperm
import MarketDataGateway.Lib.History
import MarketDataGateway.Runtime.Requests
import MarketDataGateway.Runtime.Session

/-!
# The book, its generations and its sessions

`BookInv` is what always holds of the book, of the history of its generations and of the sessions it feeds. `Aside` is what a section
that leaves the book alone may still do: callers take such sections only, and the owner takes many. What survives them is
`Steadfast`.
-/

namespace MarketDataGateway.MarketRuntime

open OrderBook Threads

variable {L : ProjectionLibrary} {setup : Setup L}

/-! ## Generations in the history -/

/-- The book and the sessions' records that the first mismatch since the last reset found. -/
def mismatchSinceReset :
    List (BookEvent L) → Option (L.Projection × List (List (PublicationRecord L.LocalSnapshot L.DepthUpdate)))
  | [] => none
  | .mismatched _ projection records :: _ => some (projection, records)
  | .reset :: _ => none
  | _ :: past => mismatchSinceReset past

/-- A reset has thrown since that mismatch, and has left whatever it has made of the book. -/
def threwSinceMismatch : List (BookEvent L) → Bool
  | [] => false
  | .mismatched _ _ _ :: _ | .reset :: _ => false
  | .resetThrew :: _ => true
  | _ :: past => threwSinceMismatch past

/-- The updates applied since the last reset, latest first. -/
def appliedSinceReset : List (BookEvent L) → List (DepthUpdateInput L)
  | [] => []
  | .applied input :: past => input :: appliedSinceReset past
  | .reset :: _ => []
  | _ :: past => appliedSinceReset past

/-- The updates the owner has taken from the ingress since the last reset, latest first. -/
def receivedSinceReset : List (BookEvent L) → List (DepthUpdateInput L)
  | [] => []
  | .received input :: past => input :: receivedSinceReset past
  | .reset :: _ => []
  | _ :: past => receivedSinceReset past

/-- An update that carries a generation carries the baseline's, if that has one. -/
def Agrees (generation : Option Nat) (input : DepthUpdateInput L) : Prop :=
  ∀ g, generation = some g → ∀ g', input.provenance.connectionGeneration = some g' → g' = g

/-- What each event of the book's history finds before it. -/
def BookEvent.Matched : BookEvent L → List (BookEvent L) → Prop
  | .applied input, past | .published _ input, past =>
    Agrees (installedGeneration past) input ∧ mismatchSinceReset past = none
  | .installed _, past | .admitted _ _, past => mismatchSinceReset past = none
  | .mismatched input _ _, past =>
    mismatchSinceReset past = none ∧ ∃ g g', installedGeneration past = some g ∧
      input.provenance.connectionGeneration = some g' ∧ g' ≠ g
  | .received _, _ | .reset, _ | .resetThrew, _ => True

/-! ## The invariant -/

/-- The channels that may still be active are all in the list. -/
def ActiveIn (channels : List Nat) (s : Impl L) : Prop :=
  ∀ (i : Nat) sub, s.channels[i]? = some sub → sub.channel.state = .active → i ∈ channels

/-- What always holds of the book and its sessions. -/
structure BookInv (setup : Setup L) (s : Impl L) : Prop where
  facts : ∀ (i : Nat) sub, s.channels[i]? = some sub → SubscriberFacts s.nextAddress sub
  follows : ∀ (i : Nat) sub, s.channels[i]? = some sub → Follows setup i s.bookLog sub.records
  enrolled : ActiveIn s.roster.subscribers s
  nodup : s.roster.subscribers.Nodup
  shutdown : s.mail.publicationShutdownCompleted = true → s.mail.publicationShutdownRequested = true
  unstarted : s.mail.started = false → s.channels = []
  generation : installedGeneration s.bookLog = s.book.currentProjectionGeneration
  matched : Every BookEvent.Matched s.bookLog
  buffered : (appliedSinceReset s.bookLog ++ s.book.bootstrap).Subperm (receivedSinceReset s.bookLog)
  mismatch : ∀ projection records, mismatchSinceReset s.bookLog = some (projection, records) →
    (threwSinceMismatch s.bookLog = false → s.book.projection = projection) ∧
      ∀ (i : Nat) sub, s.channels[i]? = some sub → ∃ found, records[i]? = some found ∧ sub.records <+: found
  ended : ∀ (i : Nat) sub, s.channels[i]? = some sub → resetSince i s.bookLog = true → sub.channel.state ≠ .active
  known : ∀ i ∈ s.roster.subscribers, i < s.channels.length

/-! ## Sections that leave the book alone -/

/-- Faulted, with nothing in the ingress and nothing on its way there. -/
def Impl.Shut (s : Impl L) : Prop :=
  s.mail.observation.state = .faulted ∧ s.mail.accepting = false ∧ s.mail.ingress = []

/-- A section that leaves the book and its history alone. It may narrow sessions and forget closed ones. -/
structure Aside (s t : Impl L) : Prop where
  projection : t.book.projection = s.book.projection
  generation : t.book.currentProjectionGeneration = s.book.currentProjectionGeneration
  bootstrap : t.book.bootstrap = s.book.bootstrap ∨ t.book.bootstrap = []
  log : t.bookLog = s.bookLog
  address : s.nextAddress ≤ t.nextAddress
  length : t.channels.length = s.channels.length
  channels : ∀ (i : Nat) sub', t.channels[i]? = some sub' → ∃ sub, s.channels[i]? = some sub ∧
    (SubscriberFacts s.nextAddress sub → SubscriberFacts s.nextAddress sub' ∧ Narrows sub sub')
  roster : t.roster.subscribers.Sublist s.roster.subscribers
  dropped : ∀ i ∈ s.roster.subscribers, i ∉ t.roster.subscribers →
    ∀ sub, t.channels[i]? = some sub → sub.channel.state ≠ .active
  exited : t.ownerExited = s.ownerExited
  started : s.mail.started = true → t.mail.started = true
  requested : s.mail.publicationShutdownRequested = true → t.mail.publicationShutdownRequested = true
  completed : t.mail.publicationShutdownCompleted = true →
    s.mail.publicationShutdownCompleted = true ∨ (t.mail.publicationShutdownRequested = true ∧ s.mail.started = false)
  shut : s.Running → s.Shut → t.Shut

/-- What an aside section does to a session, for sessions that satisfy the invariant. -/
theorem Aside.narrows {s t : Impl L} (h : Aside s t) (hi : BookInv setup s) {i : Nat} {sub' : Subscriber L}
    (ht : t.channels[i]? = some sub') :
    ∃ sub, s.channels[i]? = some sub ∧ SubscriberFacts s.nextAddress sub' ∧ Narrows sub sub' := by
  obtain ⟨sub, hs, hn⟩ := h.channels i sub' ht
  exact ⟨sub, hs, hn (hi.facts i sub hs)⟩

/-- What happens aside keeps the invariant of the book. -/
theorem BookInv.aside {s t : Impl L} (hi : BookInv setup s) (h : Aside s t) : BookInv setup t where
  facts i sub' ht := by
    obtain ⟨sub, -, hf, -⟩ := h.narrows hi ht
    exact hf.mono h.address
  follows i sub' ht := by
    obtain ⟨sub, hs, -, hn⟩ := h.narrows hi ht
    rw [h.log]
    exact (hi.follows i sub hs).narrowed hn.records
  enrolled i sub' ht ha := by
    obtain ⟨sub, hs, -, hn⟩ := h.narrows hi ht
    have hin := hi.enrolled i sub hs (hn.active ha).1
    by_contra hnot
    exact h.dropped i hin hnot sub' ht ha
  nodup := hi.nodup.sublist h.roster
  shutdown hc := by
    rcases h.completed hc with hc | ⟨hr, -⟩
    · exact h.requested (hi.shutdown hc)
    · exact hr
  unstarted hst := by
    have : s.mail.started = false := by
      cases hs : s.mail.started with
      | false => rfl
      | true => rw [h.started hs] at hst; cases hst
    exact List.eq_nil_of_length_eq_zero (by rw [h.length, hi.unstarted this]; rfl)
  generation := by rw [h.log, h.generation]; exact hi.generation
  matched := by rw [h.log]; exact hi.matched
  buffered := by
    rw [h.log]
    rcases h.bootstrap with hb | hb
    · rw [hb]; exact hi.buffered
    · rw [hb]; exact (((List.nil_sublist _).append_left _).subperm).trans hi.buffered
  mismatch p rs hm := by
    rw [h.log] at hm
    obtain ⟨hp, hrec⟩ := hi.mismatch p rs hm
    refine ⟨fun hthrew => h.projection.trans (hp (h.log ▸ hthrew)), fun i sub' ht => ?_⟩
    obtain ⟨sub, hs, -, hn⟩ := h.narrows hi ht
    obtain ⟨found, hf, hpre⟩ := hrec i sub hs
    exact ⟨found, hf, hn.records.trans hpre⟩
  ended i sub' ht hreset := by
    obtain ⟨sub, hs, -, hn⟩ := h.narrows hi ht
    exact hn.inactive (hi.ended i sub hs (h.log ▸ hreset))
  known i hin := by rw [h.length]; exact hi.known i (h.roster.subset hin)

/-- An assertion that survives every section that leaves the book alone. -/
def Steadfast (setup : Setup L) (A : Impl L → Prop) : Prop := ∀ s t, BookInv setup s → A s → Aside s t → A t

/-- Two steadfast assertions are steadfast together. -/
theorem Steadfast.and {A B : Impl L → Prop} (hA : Steadfast setup A) (hB : Steadfast setup B) :
    Steadfast setup (fun s => A s ∧ B s) :=
  fun s t hi h ha => ⟨hA s t hi h.1 ha, hB s t hi h.2 ha⟩

/-- The owner stays under way. -/
theorem steadfast_running : Steadfast setup (Impl.Running : Impl L → Prop) :=
  fun _ _ _ h ha => ⟨ha.started h.1, ha.exited.trans h.2⟩

/-- The active sessions stay among those listed. -/
theorem steadfast_activeIn (channels : List Nat) : Steadfast setup (ActiveIn channels : Impl L → Prop) := by
  intro s t hi h ha i sub' ht hact
  obtain ⟨sub, hs, -, hn⟩ := ha.narrows hi ht
  exact h i sub hs (hn.active hact).1

/-- Every active session has received all but the updates that `missing` names for it. -/
def Lag (setup : Setup L) (missing : Nat → List (DepthUpdateInput L)) (s : Impl L) : Prop :=
  ∀ (i : Nat) sub, s.channels[i]? = some sub → sub.channel.state = .active →
    Current setup i s.bookLog (missing i) sub.records

/-- What the sessions lag behind by stays. -/
theorem steadfast_lag (missing : Nat → List (DepthUpdateInput L)) : Steadfast setup (Lag setup missing) := by
  intro s t hi h ha i sub' ht hact
  obtain ⟨sub, hs, -, hn⟩ := ha.narrows hi ht
  obtain ⟨hact', hrec⟩ := hn.active hact
  rw [ha.log, hrec]
  exact h i sub hs hact'

/-- Without an active session nobody lags behind. -/
theorem Lag.of_none (h : ActiveIn [] s) (missing : Nat → List (DepthUpdateInput L)) : Lag setup missing s :=
  fun i sub hs ha => absurd (h i sub hs ha) List.not_mem_nil

/-- Nobody listens any more once the publication has been shut down. -/
def Impl.Silenced (s : Impl L) : Prop := s.mail.publicationShutdownCompleted = true → ActiveIn [] s

/-- Sessions that were silenced stay silenced. -/
theorem steadfast_silenced_of_running : Steadfast setup (fun s : Impl L => s.Running ∧ s.Silenced) := by
  rintro s t hi ⟨hr, h⟩ ha
  refine ⟨steadfast_running s t hi hr ha, fun hc => ?_⟩
  rcases ha.completed hc with hc | ⟨-, hst⟩
  · exact steadfast_activeIn [] s t hi (h hc) ha
  · rw [hr.1] at hst; cases hst

/-! ## The callers stay aside -/

/-- A section that touches neither book nor sessions nor roster. -/
theorem Aside.of_same {s t : Impl L} (hb : t.book = s.book) (hl : t.bookLog = s.bookLog) (hr : t.roster = s.roster)
    (hc : t.channels = s.channels) (ha : t.nextAddress = s.nextAddress) (hx : t.ownerExited = s.ownerExited)
    (hst : s.mail.started = true → t.mail.started = true)
    (hreq : s.mail.publicationShutdownRequested = true → t.mail.publicationShutdownRequested = true)
    (hcom : t.mail.publicationShutdownCompleted = true → s.mail.publicationShutdownCompleted = true ∨
      (t.mail.publicationShutdownRequested = true ∧ s.mail.started = false))
    (hsh : s.Running → s.Shut → t.Shut) : Aside s t where
  projection := by rw [hb]
  generation := by rw [hb]
  bootstrap := Or.inl (by rw [hb])
  log := hl
  address := Nat.le_of_eq ha.symm
  length := by rw [hc]
  channels i sub ht := ⟨sub, hc ▸ ht, fun hf => ⟨hf, Narrows.refl sub⟩⟩
  roster := by rw [hr]
  dropped i hin hnot := absurd (hr ▸ hin) hnot
  exited := hx
  started := hst
  requested := hreq
  completed := hcom
  shut := hsh

/-- Doing nothing happens aside. -/
theorem Aside.refl (s : Impl L) : Aside s s := .of_same rfl rfl rfl rfl rfl rfl id id Or.inl (fun _ => id)

/-- A section that replaces one subscriber by a narrower one. -/
theorem Aside.onSubscriber (s : Impl L) (channel : Nat) (f : Subscriber L → Subscriber L)
    (hf : ∀ sub, s.channels[channel]? = some sub → SubscriberFacts s.nextAddress sub →
      SubscriberFacts s.nextAddress (f sub) ∧ Narrows sub (f sub)) :
    Aside s (s.onSubscriber channel f) :=
  { Aside.refl s with
    length := List.length_modify ..
    channels := fun i sub' ht => by
      have ht' : (s.channels.modify channel f)[i]? = some sub' := ht
      rw [List.getElem?_modify] at ht'
      cases hs : s.channels[i]? with
      | none => rw [hs] at ht'; cases ht'
      | some sub =>
        rw [hs] at ht'
        by_cases hc : channel = i
        · simp only [if_pos hc, Option.map_eq_map, Option.map_some, Option.some.injEq] at ht'
          subst hc ht'
          exact ⟨sub, rfl, hf sub hs⟩
        · simp only [if_neg hc, Option.map_eq_map, Option.map_some, Option.some.injEq] at ht'
          subst ht'
          exact ⟨sub, rfl, fun h => ⟨h, Narrows.refl sub⟩⟩
    dropped := fun i hin hnot => absurd hin hnot }

/-- Callers and writers act aside of the book. -/
theorem ClientStep.aside {s t : Impl L} (h : ClientStep setup s t) : Aside s t := by
  cases h with
  | start =>
    unfold Impl.start
    split_ifs with h1 h2
    · exact .refl s
    · exact .refl s
    · exact .of_same rfl rfl rfl rfl rfl rfl (fun _ => rfl) id Or.inl (fun hr => absurd hr.1 h2)
  | requestStop =>
    unfold Impl.requestStop
    split_ifs with h1 h2 h3
    · exact .refl s
    · exact .of_same rfl rfl rfl rfl rfl rfl id id Or.inl (fun hr => by rw [hr.1] at h2; cases h2)
    · exact .of_same rfl rfl rfl rfl rfl rfl id (fun _ => rfl) Or.inl (fun _ hs => absurd hs.1 h3.1)
    · exact .of_same rfl rfl rfl rfl rfl rfl id (fun _ => rfl) Or.inl (fun _ hs => ⟨hs.1, rfl, hs.2.2⟩)
  | finishStop _ _ hj =>
    unfold Impl.finishStop
    dsimp only
    rw [Impl.answerSnapshotLocked_eq]
    exact .of_same rfl rfl rfl rfl rfl rfl id id Or.inl (fun hr => by rw [hr.2] at hj; cases hj)
  | submit input throws =>
    unfold Impl.submit
    split_ifs with h1 h2 h3 h4 h5
    iterate 4 exact .refl s
    · exact .of_same rfl rfl rfl rfl rfl rfl id id Or.inl (fun _ hs => ⟨hs.1, rfl, hs.2.2⟩)
    · exact .of_same rfl rfl rfl rfl rfl rfl id id Or.inl (fun _ => id)
    · refine .of_same rfl rfl rfl rfl rfl rfl id id Or.inl (fun _ hs => ?_)
      rw [hs.2.1] at h4
      exact absurd rfl h4
  | observe => unfold Impl.observe; split <;> exact .of_same rfl rfl rfl rfl rfl rfl id id Or.inl (fun _ => id)
  | requestReset kind =>
    unfold Impl.requestReset; split_ifs <;> exact .of_same rfl rfl rfl rfl rfl rfl id id Or.inl (fun _ => id)
  | returnReset _ => unfold Impl.returnReset; split <;> exact .of_same rfl rfl rfl rfl rfl rfl id id Or.inl (fun _ => id)
  | captureSnapshot =>
    unfold Impl.captureSnapshot; split_ifs <;> exact .of_same rfl rfl rfl rfl rfl rfl id id Or.inl (fun _ => id)
  | returnSnapshot _ =>
    unfold Impl.returnSnapshot; split <;> exact .of_same rfl rfl rfl rfl rfl rfl id id Or.inl (fun _ => id)
  | admitSubscription subscription throws =>
    unfold Impl.admitOrderBookSubscription
    split_ifs <;> exact .of_same rfl rfl rfl rfl rfl rfl id id Or.inl (fun _ => id)
  | shutdownPublication =>
    unfold Impl.shutdownPublication
    dsimp only
    split_ifs with h1 h2 h3
    · exact .of_same rfl rfl rfl rfl rfl rfl id id Or.inl (fun _ => id)
    · exact .of_same rfl rfl rfl rfl rfl rfl id id Or.inl (fun _ => id)
    · exact .of_same rfl rfl rfl rfl rfl rfl id (fun _ => rfl) (fun _ => Or.inr ⟨rfl, by simpa using h3⟩) (fun _ => id)
    · exact .of_same rfl rfl rfl rfl rfl rfl id (fun _ => rfl) Or.inl (fun _ => id)
  | observeReturns _ _ | observeTimesOut _ | waitReturns _ | notifySubscriberClosed | closePublicationAdmission =>
    exact .of_same rfl rfl rfl rfl rfl rfl id id Or.inl (fun _ => id)
  | peek channel => exact .onSubscriber s channel _ (fun sub _ hf => hf.writer .peek)
  | acknowledge hs hp =>
    refine .onSubscriber s _ _ (fun sub hs' hf => hf.writer (.acknowledge ?_))
    rw [hs] at hs'
    exact Option.some.inj hs' ▸ hp
  | closeFromWriter channel => exact .onSubscriber s channel _ (fun sub _ hf => hf.writer .close)

/-- The environment of the owner, as far as the book goes. -/
def bookRely (setup : Setup L) : Rely (Impl L) where
  env := ClientStep setup
  inv := BookInv setup
  inv_env := fun _ _ h hs => h.aside hs.aside

/-- A steadfast assertion is stable. -/
theorem Steadfast.stable {A : Impl L → Prop} (hA : Steadfast setup A) : (bookRely setup).Stable A :=
  fun s t hi h he => hA s t hi h he.aside

/-- Code that leaves the book alone keeps every steadfast assertion. -/
theorem aside_triple {α : Type} {p : OwnerProgram L α} (hp : p.All Aside) {A : Impl L → Prop} (hA : Steadfast setup A) :
    Triple (bookRely setup) A p (fun _ => A) :=
  Triple.of_all hp hA.stable (fun s t hi ha has => ⟨hi.aside has, hA s t hi ha has⟩)

end MarketDataGateway.MarketRuntime
