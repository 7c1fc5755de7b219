import Mathlib
import SailSim.Live.Stream

/-!
# What a live viewer receives, and what the boundaries of a run wait for

A stream only queues what the client sends; the loops that serve its connection write the
queue, read the viewer's frames, lose the connection, dial again and send the opening of the
run in progress again (`SailSim.Live.Stream`). Those loops run alongside the client, so this
file lets them make any moves at all between and during the client's calls, and follows a
stream through any sequence of calls (`Call`): dialling, opening a run, recording a step,
closing a run, closing the stream, and the loops moving on their own.

A message written after the connection broke is lost, so the viewer does not receive every
message it is handed: what it receives, followed by what still waits, is a sublist of what the
calls handed over, in call order. When the connection never drops and the viewer never hangs up,
nothing is lost and the two are equal.

An acknowledgement carries only the type of the message it answers, and a waiting call takes
the first one of its type that the stream holds. A boundary call that times out leaves its
message queued; the viewer's answer to it is held until the next call of that type takes it,
even when that call's own message never reaches the viewer (`stale_ack_ends_unreceived_run`).
A reconnect sends the opening again, and its acknowledgement counts as any other. So a
successful call does not prove that the viewer saw its message. What holds is an accounting:
every acknowledgement a call takes was sent by the viewer for a message of that type it
received, new or sent again, and no two calls take the same one.

## Main results

* `Stream.Hands` : how one operation of a stream moves it on: what it may lose of the messages
  it holds, what it hands over for the viewer, and which acknowledgements it takes. Every move of
  the loops is one (`Stream.move_hands`), every call is one (`Stream.perform_hands`), and it
  composes (`Stream.Hands.trans`).
* `Stream.performAll_inv` : the invariant `Stream.Inv` holds after every sequence of calls.
* `stream_keeps_order_and_ack_accounting` : **from a new stream, after any calls and any moves
  of the loops**, the viewer's messages followed by those still queued are a sublist of the
  messages the calls handed over, and equal to them when the connection never dropped and the
  viewer never hung up; a step is handed over exactly when recording it succeeds; only openings
  are sent again; and for every type, the successful calls that waited for it are no more than
  the messages of that type the viewer received.
* `Stream.boundary_call_takes_own_ack` : on a connected stream that holds nothing, a boundary
  call served in real time succeeds, and the acknowledgement it takes answers its own message.
* `stale_ack_ends_unreceived_run` : the accounting cannot be sharpened to "each call's own
  message was acknowledged".
-/

namespace SailSim.Live

open Json Net

/-- The message types whose sending waits for an acknowledgement. -/
def IsBoundary (type : String) : Prop := type = startRunType ∨ type = endRunType

instance (type : String) : Decidable (IsBoundary type) :=
  inferInstanceAs (Decidable (type = startRunType ∨ type = endRunType))

namespace Event

/-- The message an event carries as new. -/
def message? : Event → Option Envelope
  | .message m => some m
  | _ => none

/-- The message an event carries as sent again on reconnecting. -/
def replay? : Event → Option Envelope
  | .replayed m => some m
  | _ => none

/-- The message an event carries, new or sent again. -/
def reception? : Event → Option Envelope
  | .message m | .replayed m => some m
  | _ => none

end Event

namespace Viewer

/-- The messages the viewer received as new, in order. -/
def messages (v : Viewer) : List Envelope := v.events.toList.filterMap Event.message?

/-- The messages the viewer received as sent again, in order. -/
def replays (v : Viewer) : List Envelope := v.events.toList.filterMap Event.replay?

/-- How many messages of `type` the viewer received, new or sent again. -/
def received (v : Viewer) (type : String) : Nat :=
  (v.events.toList.filterMap Event.reception?).countP (·.type == type)

@[simp] theorem events_note (v : Viewer) (e : Event) :
    (v.note e).events.toList = v.events.toList ++ [e] := by
  simp [note]

@[simp] theorem noisy_note (v : Viewer) (e : Event) : (v.note e).noisy = v.noisy := rfl

@[simp] theorem dropsAfterEnd_note (v : Viewer) (e : Event) :
    (v.note e).dropsAfterEnd = v.dropsAfterEnd := rfl

@[simp] theorem acksFor_note (v : Viewer) (e : Event) (type : String) :
    (v.note e).acksFor type = v.acksFor type := rfl

/-- A connection or a close frame is no message. -/
theorem received_note_connect (v : Viewer) (path secret : String) (t : String) :
    (v.note (.connect path secret)).received t = v.received t := by
  simp [received, Event.reception?]

theorem endRunType_ne_startRunType : endRunType ≠ startRunType := by decide

/-- What receiving does, case by case: the viewer notes the message, new or sent again, and
hangs up after an end of run when it is told to; it acknowledges the boundaries of a run. -/
theorem receive_eq (v : Viewer) (m : Envelope) (r : Bool) :
    v.receive m r =
      (if m.type = endRunType ∧ v.dropsAfterEnd = true then
          (v.note (if r then .replayed m else .message m)).note .dropped
        else v.note (if r then .replayed m else .message m),
        if IsBoundary m.type then v.acksFor m.type else [],
        !(decide (m.type = endRunType) && v.dropsAfterEnd)) := by
  have hne := endRunType_ne_startRunType
  unfold receive
  by_cases hs : m.type = startRunType
  · simp [hs, hne.symm, IsBoundary]
  · by_cases he : m.type = endRunType
    · cases hd : v.dropsAfterEnd <;> simp [he, hd, hne, IsBoundary]
    · simp [hs, he, IsBoundary]

@[simp] theorem receive_noisy (v : Viewer) (m : Envelope) (r : Bool) :
    (v.receive m r).1.noisy = v.noisy := by
  rw [receive_eq]
  dsimp only
  split <;> rfl

@[simp] theorem receive_dropsAfterEnd (v : Viewer) (m : Envelope) (r : Bool) :
    (v.receive m r).1.dropsAfterEnd = v.dropsAfterEnd := by
  rw [receive_eq]
  dsimp only
  split <;> rfl

/-- Receiving notes the message, new or sent again, and then perhaps that the viewer hung up. -/
theorem receive_events (v : Viewer) (m : Envelope) (r : Bool) :
    ∃ extra : List Event, (∀ e ∈ extra, e = .dropped) ∧
      (v.receive m r).1.events.toList =
        v.events.toList ++ (if r then Event.replayed m else .message m) :: extra := by
  rw [receive_eq]
  by_cases h : m.type = endRunType ∧ v.dropsAfterEnd = true
  · rw [if_pos h]
    exact ⟨[.dropped], by simp, by simp⟩
  · rw [if_neg h]
    exact ⟨[], by simp, by simp⟩

theorem receive_messages (v : Viewer) (m : Envelope) (r : Bool) :
    (v.receive m r).1.messages = v.messages ++ if r then [] else [m] := by
  obtain ⟨extra, hextra, h⟩ := receive_events v m r
  have hnone : extra.filterMap Event.message? = [] :=
    List.filterMap_eq_nil_iff.2 fun e he => by rw [hextra e he]; rfl
  unfold messages
  rw [h, List.filterMap_append, List.filterMap_cons, hnone]
  cases r <;> rfl

theorem receive_replays (v : Viewer) (m : Envelope) (r : Bool) :
    (v.receive m r).1.replays = v.replays ++ if r then [m] else [] := by
  obtain ⟨extra, hextra, h⟩ := receive_events v m r
  have hnone : extra.filterMap Event.replay? = [] :=
    List.filterMap_eq_nil_iff.2 fun e he => by rw [hextra e he]; rfl
  unfold replays
  rw [h, List.filterMap_append, List.filterMap_cons, hnone]
  cases r <;> rfl

theorem receive_received (v : Viewer) (m : Envelope) (r : Bool) (t : String) :
    (v.receive m r).1.received t = v.received t + if m.type = t then 1 else 0 := by
  obtain ⟨extra, hextra, h⟩ := receive_events v m r
  have hnone : extra.filterMap Event.reception? = [] :=
    List.filterMap_eq_nil_iff.2 fun e he => by rw [hextra e he]; rfl
  unfold received
  rw [h, List.filterMap_append, List.filterMap_cons, hnone]
  cases r <;> simp [Event.reception?, List.countP_cons]

/-- A viewer that never hangs up keeps every connection. -/
theorem receive_keeps {v : Viewer} (hv : v.dropsAfterEnd = false) (m : Envelope) (r : Bool) :
    (v.receive m r).2.2 = true := by
  simp [receive_eq, hv]

/-- The acknowledgements of a message of `type` hold one of that type and none of another
boundary type: the noise a viewer may add is of no boundary type. -/
theorem count_acksFor (v : Viewer) {t : String} (ht : IsBoundary t) (type : String) :
    (v.acksFor type).count t = if type = t then 1 else 0 := by
  have hother : ("other" == t) = false := by
    rcases ht with rfl | rfl <;> decide
  unfold acksFor
  split <;> simp [List.count_cons, hother]

/-- The viewer answers a message with at most one acknowledgement of each boundary type, and
only of the message's own. -/
theorem count_receive_acks (v : Viewer) (m : Envelope) (r : Bool) {t : String}
    (ht : IsBoundary t) : (v.receive m r).2.1.count t ≤ if m.type = t then 1 else 0 := by
  rw [receive_eq]
  by_cases hm : IsBoundary m.type
  · simp [hm, count_acksFor _ ht]
  · simp [hm]

end Viewer

namespace Stream

/-- The messages the stream holds for the viewer: those the viewer received as new, then those
still waiting. -/
def view (s : Stream) : List Envelope := s.viewer.messages ++ s.queue.toList

/-- How many acknowledgements of `type` the stream holds: read, or sent and not yet read. -/
def pending (s : Stream) (type : String) : Nat := s.acks.count type + s.frames.count type

/-- Nothing was lost so far: no connection, or one the loops serve. -/
def Steady (s : Stream) : Prop := s.link = .idle ∨ s.link = .up

/-- Only openings of runs were sent again, and only an opening is kept to be sent again. -/
def OpensOnly (s : Stream) : Prop :=
  (∀ m ∈ s.viewer.replays, m.type = startRunType) ∧ ∀ m ∈ s.start, m.type = startRunType

/-- `s` becomes `s'` by taking the messages `ms` for the viewer while calls take
acknowledgements of the types `took`: the messages `s'` holds are some of those `s` held and
`ms`, in order, and all of them when the operation is `calm`, nothing was lost before and the
viewer never hangs up; for every boundary type the acknowledgements held by `s'` and taken are
no more than those held by `s` and the messages of that type received since; only openings are
sent again; and the viewer keeps its manner. -/
structure Hands (calm : Prop) (s : Stream) (ms : List Envelope) (took : List String)
    (s' : Stream) : Prop where
  order : s'.view.Sublist (s.view ++ ms)
  exact : calm → s.Steady → s.viewer.dropsAfterEnd = false → s'.Steady ∧ s'.view = s.view ++ ms
  acks : ∀ t, IsBoundary t →
    s'.pending t + took.count t + s.viewer.received t ≤ s'.viewer.received t + s.pending t
  opens : s.OpensOnly → s'.OpensOnly
  manner : s'.viewer.dropsAfterEnd = s.viewer.dropsAfterEnd

namespace Hands

variable {calm calm₁ calm₂ : Prop}

theorem refl (calm : Prop) (s : Stream) : Hands calm s [] [] s :=
  ⟨by simp, fun _ hs _ => ⟨hs, by simp⟩, fun _ _ => by simp; omega, id, rfl⟩

theorem trans {s₁ s₂ s₃ : Stream} {ms₁ ms₂ : List Envelope} {took₁ took₂ : List String}
    (h₁ : Hands calm₁ s₁ ms₁ took₁ s₂) (h₂ : Hands calm₂ s₂ ms₂ took₂ s₃) :
    Hands (calm₁ ∧ calm₂) s₁ (ms₁ ++ ms₂) (took₁ ++ took₂) s₃ where
  order := by
    rw [← List.append_assoc]
    exact h₂.order.trans (h₁.order.append_right ms₂)
  exact := fun hc hs hv => by
    obtain ⟨hs₂, hv₂⟩ := h₁.exact hc.1 hs hv
    obtain ⟨hs₃, hv₃⟩ := h₂.exact hc.2 hs₂ (h₁.manner.trans hv)
    exact ⟨hs₃, by rw [hv₃, hv₂, List.append_assoc]⟩
  acks t ht := by
    have h₁t := h₁.acks t ht
    have h₂t := h₂.acks t ht
    rw [List.count_append]
    omega
  opens := h₂.opens ∘ h₁.opens
  manner := h₂.manner.trans h₁.manner

theorem mono {s s' : Stream} {ms : List Envelope} {took : List String} (h : Hands calm₁ s ms took s')
    (hc : calm₂ → calm₁) : Hands calm₂ s ms took s' :=
  ⟨h.order, fun c => h.exact (hc c), h.acks, h.opens, h.manner⟩

/-- An operation that hands nothing over, takes nothing, loses nothing and receives nothing,
and holds no more acknowledgements after it. -/
theorem quiet {s s' : Stream} (hview : s'.view = s.view) (hsteady : calm → s.Steady → s'.Steady)
    (hpend : ∀ t, s'.pending t ≤ s.pending t)
    (hrec : ∀ t, s'.viewer.received t = s.viewer.received t)
    (hopens : s.OpensOnly → s'.OpensOnly)
    (hmanner : s'.viewer.dropsAfterEnd = s.viewer.dropsAfterEnd) : Hands calm s [] [] s' where
  order := by simp [hview]
  exact hc hs _ := ⟨hsteady hc hs, by simp [hview]⟩
  acks t _ := by
    have := hpend t
    simp [hrec t]
    omega
  opens := hopens
  manner := hmanner

end Hands

/-! ### The loops -/

section Moves

variable (s : Stream) (m : Envelope) (r : Bool)

@[simp] theorem deliver_viewer : (s.deliver m r).viewer = (s.viewer.receive m r).1 := rfl
@[simp] theorem deliver_queue : (s.deliver m r).queue = s.queue := rfl
@[simp] theorem deliver_frames : (s.deliver m r).frames = s.frames ++ (s.viewer.receive m r).2.1 :=
  rfl
@[simp] theorem deliver_acks : (s.deliver m r).acks = s.acks := rfl
@[simp] theorem deliver_start : (s.deliver m r).start = s.start := rfl
@[simp] theorem deliver_closed : (s.deliver m r).closed = s.closed := rfl

theorem deliver_link :
    (s.deliver m r).link = if (s.viewer.receive m r).2.2 then s.link else .broken := rfl

/-- Delivering adds the message to what the viewer received, and its acknowledgement, if any,
to the frames not read. -/
theorem pending_deliver {t : String} (ht : IsBoundary t) :
    (s.deliver m r).pending t ≤ s.pending t + if m.type = t then 1 else 0 := by
  have h := s.viewer.count_receive_acks m r ht
  simp only [pending, deliver_acks, deliver_frames, List.count_append]
  omega

theorem view_deliver :
    (s.deliver m r).view = s.viewer.messages ++ (if r then [] else [m]) ++ s.queue.toList := by
  simp [view, Viewer.receive_messages]

/-- Delivering counts: the acknowledgements it adds answer the message the viewer received. -/
theorem deliver_acks_le {t : String} (ht : IsBoundary t) :
    (s.deliver m r).pending t + s.viewer.received t ≤
      (s.deliver m r).viewer.received t + s.pending t := by
  have h := s.pending_deliver m r ht
  rw [deliver_viewer, Viewer.receive_received]
  omega

theorem queue_toList_of_head {s : Stream} {m : Envelope} (h : s.queue[0]? = some m) :
    s.queue.toList = m :: (s.queue.extract 1).toList := by
  rcases hq : s.queue with ⟨l⟩
  rw [hq] at h
  cases l with
  | nil => simp at h
  | cons y l => simp_all

/-- The write loop writes the first waiting message to a connection it serves: the viewer
receives it, and what the stream holds for the viewer is unchanged. -/
theorem write_up_hands {s : Stream} {m : Envelope} (hq : s.queue[0]? = some m)
    (hup : s.link = .up) :
    Hands True s [] [] ({ s with queue := s.queue.extract 1 }.deliver m false) := by
  have hview : ({ s with queue := s.queue.extract 1 }.deliver m false).view = s.view := by
    rw [view_deliver]
    show s.viewer.messages ++ [m] ++ (s.queue.extract 1).toList = s.viewer.messages ++ s.queue.toList
    rw [queue_toList_of_head hq, List.append_assoc, List.singleton_append]
  refine ⟨by simp [hview], fun _ _ hv => ⟨?_, by simp [hview]⟩, fun t ht => ?_, ?_, by simp⟩
  · -- a viewer that never hangs up keeps the connection
    right
    simp [deliver_link, Viewer.receive_keeps hv, hup]
  · have h := deliver_acks_le { s with queue := s.queue.extract 1 } m false ht
    simp only [List.count_nil, add_zero] at h ⊢
    exact h
  · rintro ⟨hrep, hstart⟩
    exact ⟨by simpa [Viewer.receive_replays] using hrep, by simpa using hstart⟩

/-- A message written to a broken connection is lost. -/
theorem write_broken_hands {s : Stream} {m : Envelope} (hq : s.queue[0]? = some m)
    (hbroken : s.link = .broken) : Hands True s [] [] { s with queue := s.queue.extract 1 } where
  order := by
    show (s.viewer.messages ++ (s.queue.extract 1).toList).Sublist
      (s.viewer.messages ++ s.queue.toList ++ [])
    rw [List.append_nil, queue_toList_of_head hq]
    exact (List.sublist_cons_self m _).append_left _
  exact _ hs _ := by rcases hs with h | h <;> simp [hbroken] at h
  acks _ _ := by
    simp only [pending, List.count_nil]
    omega
  opens := id
  manner := rfl

/-- Sending the opening again: the viewer receives it once more, as sent again. -/
theorem replayStart_hands (s : Stream) : Hands True s [] [] s.replayStart := by
  unfold replayStart
  split
  · rename_i m hstart
    have hview : (s.deliver m true).view = s.view := by
      rw [view_deliver]
      simp [view]
    refine ⟨by simp [hview], fun _ hs hv => ⟨?_, by simp [hview]⟩, fun t ht => ?_, ?_, by simp⟩
    · rw [Steady, deliver_link, Viewer.receive_keeps hv]
      exact hs
    · have h := deliver_acks_le s m true ht
      simp only [List.count_nil, add_zero] at h ⊢
      exact h
    · -- what is sent again is the opening kept
      rintro ⟨hrep, hopen⟩
      refine ⟨fun x hx => ?_, by simpa using hopen⟩
      rw [deliver_viewer, Viewer.receive_replays] at hx
      rcases List.mem_append.1 hx with hx | hx
      · exact hrep x hx
      · simp only [if_true, List.mem_singleton] at hx
        exact hx ▸ hopen m hstart
  · exact Hands.refl True s

/-- A new connection of the reconnect loop is noted, and nothing else changes but the link. -/
theorem reconnect_hands {s : Stream} (hnot : ¬ s.Steady) (path secret : String) :
    Hands True s [] [] { s with viewer := s.viewer.note (.connect path secret), link := .up } :=
  Hands.quiet (by simp [view, Viewer.messages, Event.message?]) (fun _ h => absurd h hnot)
    (fun _ => le_refl _) (fun t => Viewer.received_note_connect _ _ _ t)
    (fun ⟨hrep, hstart⟩ => ⟨by simpa [Viewer.replays, Event.replay?] using hrep, hstart⟩) rfl

/-- The read loop reads a frame: an acknowledgement read is kept, up to the capacity. -/
theorem read_hands (calm : Prop) {s : Stream} {a : String} {rest : List String}
    (hframes : s.frames = a :: rest) :
    Hands calm s [] [] { s with frames := rest, acks := (s.acks ++ [a]).take ackCapacity } := by
  refine Hands.quiet rfl (fun _ => id) (fun t => ?_) (fun _ => rfl) id rfl
  have htake := (List.take_sublist ackCapacity (s.acks ++ [a])).count_le t
  simp only [pending, hframes, List.count_append, List.count_cons, List.count_nil] at htake ⊢
  omega

/-- **What one move of the loops does.**  It loses at most a message written to a broken
connection, hands nothing over and takes nothing; unless the connection drops under it, it
loses nothing from a stream that lost nothing before. -/
theorem move_hands (s : Stream) (mv : Move) : Hands (mv ≠ .drop) s [] [] (s.move mv) := by
  cases mv with
  | write =>
    rw [move]
    by_cases hc : s.closed = true
    · rw [if_pos hc]
      exact Hands.refl _ s
    rw [if_neg hc]
    split
    · rename_i m hq hup
      exact (write_up_hands hq hup).mono fun _ => trivial
    · rename_i m hq hbroken
      exact (write_broken_hands hq hbroken).mono fun _ => trivial
    · exact Hands.refl _ s
  | read =>
    rw [move]
    by_cases hc : s.closed = true
    · rw [if_pos hc]
      exact Hands.refl _ s
    rw [if_neg hc]
    split
    · rename_i a rest hframes
      exact read_hands _ hframes
    · exact Hands.refl _ s
  | drop =>
    -- only a drop breaks a connection the loops serve, and it is not calm
    rw [move]
    split
    · exact Hands.quiet rfl (fun hc => absurd rfl hc) (fun _ => le_refl _) (fun _ => rfl) id rfl
    · exact Hands.refl _ s
  | fail =>
    rw [move]
    split
    · rename_i hbroken
      have hnot : ¬ s.Steady := by
        rintro (h | h) <;> simp only [h, Bool.and_eq_true] at hbroken <;>
          exact absurd hbroken.1 (by decide)
      exact Hands.quiet rfl (fun _ h => absurd h hnot) (fun t => by simp [pending])
        (fun _ => rfl) id rfl
    · exact Hands.refl _ s
  | redial =>
    rw [move]
    by_cases hc : s.closed = true
    · rw [if_pos hc]
      exact Hands.refl _ s
    rw [if_neg hc]
    split
    · rename_i failed hlost
      have hnot : ¬ s.Steady := by
        rintro (h | h) <;> simp [hlost] at h
      split
      · exact Hands.quiet rfl (fun _ h => absurd h hnot) (fun _ => le_refl _) (fun _ => rfl) id rfl
      · -- connected again, the opening of the run in progress is sent again
        rename_i path secret _
        have h := (reconnect_hands hnot path secret).trans (replayStart_hands _)
        exact h.mono fun _ => ⟨trivial, trivial⟩
    · exact Hands.refl _ s

/-- Moves of the loops, in order: calm when the connection never drops under them. -/
theorem moves_hands (ms : List Move) (s : Stream) : Hands (.drop ∉ ms) s [] [] (s.moves ms) := by
  induction ms generalizing s with
  | nil => exact Hands.refl _ s
  | cons mv ms ih =>
    have h := (move_hands s mv).trans (ih (s.move mv))
    exact h.mono fun hc => ⟨fun h => hc (h ▸ List.mem_cons_self ..),
      fun h => hc (List.mem_cons_of_mem _ h)⟩

end Moves

/-! ### The client's calls -/

section Calls

/-- Queueing a message hands it over, unless the queue is full. -/
theorem send_hands (s : Stream) (m : Envelope) :
    Hands True s (if (s.send m).1 then [m] else []) [] (s.send m).2 := by
  unfold send
  split
  · refine ⟨by simp [view], fun _ hs _ => ⟨hs, by simp [view]⟩, fun _ _ => ?_, id, rfl⟩
    simp only [pending, List.count_nil]
    omega
  · simpa using Hands.refl True s

/-- Waiting for an acknowledgement takes one of its type when it succeeds, and changes nothing
but the acknowledgements held. -/
theorem awaitAck_hands (s : Stream) (type : String) :
    Hands True s [] (if (s.awaitAck type).1.toBool then [type] else []) (s.awaitAck type).2 := by
  unfold awaitAck
  split
  · exact Hands.refl True s
  · split
    · -- the first acknowledgement of the type, and those after it, are kept
      rename_i x rest hdrop
      have hx : x = type := by
        have hne : s.acks.dropWhile (· != type) ≠ [] := by simp [hdrop]
        have := List.head_dropWhile_not (· != type) hne
        simpa [hdrop] using this
      subst hx
      refine Hands.mk (by simp [view]) (fun _ hs _ => ⟨hs, by simp [view]⟩) (fun t _ => ?_) id rfl
      have hsub := ((List.dropWhile_suffix (· != x) (l := s.acks)).sublist).count_le t
      rw [hdrop, List.count_cons] at hsub
      simp only [pending, Except.toBool, if_true, List.count_singleton]
      split at hsub <;> simp_all <;> omega
    · -- no acknowledgement of the type: those held are dropped
      have h : Hands True s [] [] { s with acks := [] } :=
        Hands.quiet rfl (fun _ => id) (fun t => by simp [pending]) (fun _ => rfl) id rfl
      simpa [Except.toBool] using h

/-- Sending a message and waiting for its acknowledgement while the loops make the moves
`during` chooses: calm when the connection never drops under them. -/
theorem sendAndWait_hands (s : Stream) (m : Envelope) (during : Stream → List Move) :
    Hands (.drop ∉ during (s.send m).2) s (if (s.send m).1 then [m] else [])
      (if (s.sendAndWait m during).1.toBool then [m.type] else []) (s.sendAndWait m during).2 := by
  have h := ((send_hands s m).trans (moves_hands (during (s.send m).2) _)).trans
    (awaitAck_hands _ m.type)
  simp only [List.append_nil, List.nil_append] at h
  exact h.mono fun hc => ⟨⟨trivial, hc⟩, trivial⟩

/-- Dialling notes the connection, if one is made, and hands nothing over. -/
theorem dial_hands (s : Stream) (raw secret : String) : Hands True s [] [] (s.dial raw secret).2 := by
  unfold dial
  split
  · exact Hands.refl True s
  · dsimp only
    split
    · exact Hands.quiet rfl (fun _ => id) (fun _ => le_refl _) (fun _ => rfl) id rfl
    · -- connected: the connection is noted, which is no message, and no frame is left
      refine Hands.quiet (by simp [view, Viewer.messages, Event.message?]) (fun _ _ => .inr rfl)
        (fun t => by simp [pending]) (fun t => Viewer.received_note_connect _ _ _ t) ?_ rfl
      rintro ⟨hrep, hstart⟩
      exact ⟨by simpa [Viewer.replays, Event.replay?] using hrep, hstart⟩

/-- Closing hands nothing over: a close frame is no message. -/
theorem close_hands (s : Stream) : Hands True s [] [] s.close := by
  unfold close
  split
  · exact Hands.refl True s
  · -- whether or not the viewer notes a close frame, it receives no message
    have hnote : ∀ v : Viewer, (v.note (.close normalClosure)).messages = v.messages ∧
        (v.note (.close normalClosure)).replays = v.replays ∧
        ∀ t, (v.note (.close normalClosure)).received t = v.received t := fun v =>
      ⟨by simp [Viewer.messages, Event.message?], by simp [Viewer.replays, Event.replay?],
        fun t => by simp [Viewer.received, Event.reception?]⟩
    refine Hands.quiet ?_ (fun _ _ => .inl rfl) (fun _ => le_refl _) (fun t => ?_) ?_ ?_
    · split <;> simp [view, hnote]
    · split <;> simp [hnote]
    · rintro ⟨hrep, hstart⟩
      exact ⟨by split <;> simpa [hnote] using hrep, hstart⟩
    · split <;> rfl

/-- Keeping an opening to send again on reconnecting. -/
theorem keepStart_hands (s : Stream) {m : Envelope} (hm : m.type = startRunType) :
    Hands True s [] [] { s with start := some m } :=
  Hands.quiet rfl (fun _ => id) (fun _ => le_refl _) (fun _ => rfl)
    (fun ⟨hrep, _⟩ => ⟨hrep, fun x hx => by simp_all⟩) rfl

/-- Dropping the opening kept. -/
theorem dropStart_hands (s : Stream) : Hands True s [] [] { s with start := none } :=
  Hands.quiet rfl (fun _ => id) (fun _ => le_refl _) (fun _ => rfl)
    (fun ⟨hrep, _⟩ => ⟨hrep, fun x hx => by simp at hx⟩) rfl

theorem send_fst (s : Stream) (m : Envelope) :
    (s.send m).1 = decide (s.queue.size < queueCapacity) := by
  unfold send
  split <;> simp_all

end Calls

end Stream

/-- A call of the client on a stream, or the loops moving on their own between calls. A call
that waits for an acknowledgement waits while the loops make the moves `during` chooses for the
stream it waits on. -/
inductive Call where
  | dial (raw secret : String)
  | startRun (run : Run) (fresh : String) (during : Stream → List Move)
  | recordStep (x : StepSample)
  | endRun (summary : Option RunSummary) (during : Stream → List Move)
  | close
  | idle (during : Stream → List Move)

namespace Call

/-- The message a call hands to the stream, when its payload can be written. -/
def message? : Call → Option Envelope
  | .startRun run fresh _ =>
    (Stream.envelope startRunType
      (members [("run", (if run.uuid.isEmpty then { run with uuid := fresh } else run).toJson)])).toOption
  | .recordStep x => (Stream.envelope stepType (StepPayload.ofSample x).toJson).toOption
  | .endRun summary _ => (Stream.envelope endRunType (Stream.endRunPayload summary)).toOption
  | _ => none

/-- The type of the acknowledgement a call waits for. -/
def awaits : Call → Option String
  | .startRun .. => some startRunType
  | .endRun .. => some endRunType
  | _ => none

/-- The connection never drops under the loops while the call lasts. -/
def Calm : Call → Prop
  | .startRun _ _ during | .endRun _ during | .idle during => ∀ s, .drop ∉ during s
  | _ => True

theorem awaits_isBoundary {c : Call} {t : String} (h : c.awaits = some t) : IsBoundary t := by
  cases c <;> simp [awaits] at h <;> simp [IsBoundary, h]

end Call

/-- What a call did: whether it succeeded, and the message the stream took from it for the
viewer. -/
structure Reply where
  call : Call
  ok : Bool
  handed : Option Envelope

/-- The acknowledgement a call took: the one it waits for, when it succeeded. -/
def Reply.took (r : Reply) : List String := if r.ok then r.call.awaits.toList else []

theorem Reply.isBoundary_of_mem_took {r : Reply} {t : String} (h : t ∈ r.took) : IsBoundary t := by
  unfold took at h
  split at h
  · exact Call.awaits_isBoundary (Option.mem_toList.1 h)
  · simp at h

theorem envelope_type {type : String} {p : Encoded} {m : Envelope}
    (h : Stream.envelope type p = .ok m) : m.type = type := by
  cases p <;> simp [Stream.envelope] at h
  rw [← h]

theorem toBool_map {ε α β : Type} (f : α → β) (r : Except ε α) : (r.map f).toBool = r.toBool := by
  cases r <;> rfl

theorem toOption_eq_some {ε α : Type} {r : Except ε α} {a : α} (h : r.toOption = some a) :
    r = .ok a := by
  cases r with
  | error e => cases h
  | ok b => cases h; rfl

theorem toOption_eq_none {ε α : Type} {r : Except ε α} (h : r.toOption = none) :
    ∃ e, r = .error e := by
  cases r with
  | error e => exact ⟨e, rfl⟩
  | ok b => cases h

namespace Stream

/-- Performs a call: the stream after it, and what it did. -/
def perform (s : Stream) (c : Call) : Stream × Reply :=
  let handed := c.message?.filter fun m => (s.send m).1
  match c with
  | .dial raw secret => ((s.dial raw secret).2, ⟨c, (s.dial raw secret).1.toBool, handed⟩)
  | .startRun run fresh during =>
    ((s.startRun run fresh during).2, ⟨c, (s.startRun run fresh during).1.toBool, handed⟩)
  | .recordStep x => ((s.recordStep x).2, ⟨c, (s.recordStep x).1.toBool, handed⟩)
  | .endRun summary during =>
    ((s.endRun summary during).2, ⟨c, (s.endRun summary during).1.toBool, handed⟩)
  | .close => (s.close, ⟨c, true, handed⟩)
  | .idle during => (s.moves (during s), ⟨c, true, handed⟩)

/-- Performs calls in order: the stream after them, and what each did. -/
def performAll (s : Stream) : List Call → Stream × List Reply
  | [] => (s, [])
  | c :: cs =>
    let r := s.perform c
    let rs := r.1.performAll cs
    (rs.1, r.2 :: rs.2)

section Perform

@[simp] theorem perform_call (s : Stream) (c : Call) : (s.perform c).2.call = c := by
  cases c <;> rfl

theorem perform_handed (s : Stream) (c : Call) :
    (s.perform c).2.handed = c.message?.filter fun m => (s.send m).1 := by
  cases c <;> rfl

/-- Opening a run: when its payload cannot be written it fails and changes nothing; otherwise
it keeps the opening, sends it and waits for an acknowledgement of its type. -/
theorem perform_startRun (s : Stream) (run : Run) (fresh : String) (during : Stream → List Move) :
    ((Call.startRun run fresh during).message? = none ∧
        (s.perform (.startRun run fresh during)).1 = s ∧
        (s.perform (.startRun run fresh during)).2.ok = false) ∨
      ∃ m, (Call.startRun run fresh during).message? = some m ∧ m.type = startRunType ∧
        (s.perform (.startRun run fresh during)).1 =
          ({ s with start := some m }.sendAndWait m during).2 ∧
        (s.perform (.startRun run fresh during)).2.ok =
          ({ s with start := some m }.sendAndWait m during).1.toBool := by
  cases hm : (Call.startRun run fresh during).message? with
  | none =>
    obtain ⟨e, he⟩ := toOption_eq_none hm
    refine .inl ⟨rfl, ?_, ?_⟩ <;>
      · unfold perform startRun
        dsimp only
        rw [he]
        try rfl
  | some m =>
    have he := toOption_eq_some hm
    refine .inr ⟨m, rfl, envelope_type he, ?_, ?_⟩ <;> unfold perform startRun <;> dsimp only <;>
      rw [he]
    -- the answer carries the run's UUID, which does not change whether it succeeded
    exact toBool_map _ _

/-- Closing a run: when its payload cannot be written it fails and changes nothing; otherwise
it sends its message, waits for an acknowledgement of its type and drops the opening kept. -/
theorem perform_endRun (s : Stream) (summary : Option RunSummary) (during : Stream → List Move) :
    ((Call.endRun summary during).message? = none ∧
        (s.perform (.endRun summary during)).1 = s ∧
        (s.perform (.endRun summary during)).2.ok = false) ∨
      ∃ m, (Call.endRun summary during).message? = some m ∧ m.type = endRunType ∧
        (s.perform (.endRun summary during)).1 = { (s.sendAndWait m during).2 with start := none } ∧
        (s.perform (.endRun summary during)).2.ok = (s.sendAndWait m during).1.toBool := by
  cases hm : (Call.endRun summary during).message? with
  | none =>
    obtain ⟨e, he⟩ := toOption_eq_none hm
    refine .inl ⟨rfl, ?_, ?_⟩ <;>
      · unfold perform endRun
        dsimp only
        rw [he]
        try rfl
  | some m =>
    have he := toOption_eq_some hm
    refine .inr ⟨m, rfl, envelope_type he, ?_, ?_⟩ <;>
      · unfold perform endRun
        dsimp only
        rw [he]

/-- Recording a step succeeds exactly when the stream takes its message. -/
theorem perform_recordStep (s : Stream) (x : StepSample) :
    (s.perform (.recordStep x)).2.ok = true ↔ (s.perform (.recordStep x)).2.handed.isSome := by
  rw [perform_handed]
  simp only [perform, recordStep, Call.message?]
  cases Stream.envelope stepType (StepPayload.ofSample x).toJson with
  | error e => simp [Except.toOption, Except.toBool]
  | ok m =>
    cases hq : (s.send m).1 <;> simp [hq, Except.toOption, Except.toBool]

theorem recordStep_hands (s : Stream) (x : StepSample) :
    Hands True s (s.perform (.recordStep x)).2.handed.toList [] (s.perform (.recordStep x)).1 := by
  rw [perform_handed]
  simp only [perform, recordStep, Call.message?]
  cases Stream.envelope stepType (StepPayload.ofSample x).toJson with
  | error e => simpa [Except.toOption] using Hands.refl True s
  | ok m =>
    -- the stream after a step is the stream after sending it, whether or not it was taken
    have h := send_hands s m
    cases hq : (s.send m).1 <;> simp_all [Except.toOption, Option.filter]

/-- A boundary call hands over what queueing its message hands over, and takes the
acknowledgement it waited for when it succeeds. -/
theorem boundary_handed (s : Stream) {c : Call} {m : Envelope} (hm : c.message? = some m) :
    (s.perform c).2.handed.toList = if (s.send m).1 then [m] else [] := by
  rw [perform_handed, hm]
  cases h : (s.send m).1 <;> simp [Option.filter, h]

/-- A call that waits for nothing takes nothing. -/
theorem took_of_awaits (s : Stream) {c : Call} (hc : c.awaits = none) : (s.perform c).2.took = [] := by
  simp [Reply.took, hc]

/-- A call that sends no message hands nothing over. -/
theorem handed_of_message (s : Stream) {c : Call} (hc : c.message? = none) :
    (s.perform c).2.handed.toList = [] := by
  simp [perform_handed, hc]

/-- **What one call does.**  It hands over its message when the stream takes it, takes the
acknowledgement it waited for when it succeeds, and loses only what the loops lose while it
lasts. -/
theorem perform_hands (s : Stream) (c : Call) :
    Hands c.Calm s (s.perform c).2.handed.toList (s.perform c).2.took (s.perform c).1 := by
  cases c with
  | dial raw secret =>
    rw [took_of_awaits s rfl, handed_of_message s rfl]
    exact dial_hands s raw secret
  | startRun run fresh during =>
    rcases perform_startRun s run fresh during with ⟨hm, h₁, h₂⟩ | ⟨m, hm, htype, h₁, h₂⟩
    · rw [perform_handed, hm, Reply.took, h₁, h₂]
      simpa using Hands.refl _ s
    · have h := (keepStart_hands s htype).trans (sendAndWait_hands _ m during)
      rw [boundary_handed s hm, Reply.took, h₁, h₂]
      simp only [List.nil_append, send_fst, htype] at h ⊢
      exact h.mono fun hc => ⟨trivial, hc _⟩
  | recordStep x =>
    rw [took_of_awaits s rfl]
    exact recordStep_hands s x
  | endRun summary during =>
    rcases perform_endRun s summary during with ⟨hm, h₁, h₂⟩ | ⟨m, hm, htype, h₁, h₂⟩
    · rw [perform_handed, hm, Reply.took, h₁, h₂]
      simpa using Hands.refl _ s
    · have h := (sendAndWait_hands s m during).trans (dropStart_hands _)
      rw [boundary_handed s hm, Reply.took, h₁, h₂]
      simp only [List.append_nil, htype] at h ⊢
      exact h.mono fun hc => ⟨hc _, trivial⟩
  | close =>
    rw [took_of_awaits s rfl, handed_of_message s rfl]
    exact close_hands s
  | idle during =>
    rw [took_of_awaits s rfl, handed_of_message s rfl]
    exact (moves_hands (during s) s).mono fun hc => hc s

end Perform

/-- What every stream reached by calls keeps, against the replies of the calls. -/
structure Inv (s : Stream) (log : List Reply) : Prop where
  /-- The viewer's messages, then the waiting ones, are some of those the calls handed over,
  in order. -/
  order : s.view.Sublist (log.filterMap (·.handed))
  /-- They are all of them when nothing dropped and the viewer never hung up. -/
  exact : (∀ r ∈ log, r.call.Calm) → s.viewer.dropsAfterEnd = false →
    s.Steady ∧ s.view = log.filterMap (·.handed)
  /-- The acknowledgements held and taken answer messages the viewer received. -/
  acks : ∀ t, IsBoundary t → s.pending t + (log.flatMap Reply.took).count t ≤ s.viewer.received t
  /-- A step is handed over exactly when recording it succeeded. -/
  steps : ∀ r ∈ log, ∀ x, r.call = .recordStep x → (r.ok = true ↔ r.handed.isSome)
  opens : s.OpensOnly

theorem inv_new (network : Network) (dropsAfterEnd noisy : Bool) :
    Inv { network, viewer := { dropsAfterEnd, noisy } } [] where
  order := by simp [view, Viewer.messages]
  exact _ _ := ⟨.inl rfl, by simp [view, Viewer.messages]⟩
  acks _ _ := by simp [pending, Viewer.received]
  steps := by simp
  opens := ⟨by simp [Viewer.replays], by simp⟩

theorem perform_inv {s : Stream} {log : List Reply} (hi : Inv s log) (c : Call) :
    Inv (s.perform c).1 (log ++ [(s.perform c).2]) := by
  have h := perform_hands s c
  have hfilter : (log ++ [(s.perform c).2]).filterMap (·.handed) =
      log.filterMap (·.handed) ++ (s.perform c).2.handed.toList := by
    rw [List.filterMap_append]
    rcases h' : (s.perform c).2.handed with _ | m <;> simp [h']
  refine ⟨?_, fun hcalm hv => ?_, fun t ht => ?_, ?_, h.opens hi.opens⟩
  · rw [hfilter]
    exact h.order.trans (hi.order.append_right _)
  · -- nothing lost before, and this call loses nothing either
    have hc : c.Calm := by simpa using hcalm _ (List.mem_append_right _ (List.mem_singleton_self _))
    obtain ⟨hs, hview⟩ := hi.exact (fun r hr => hcalm r (List.mem_append_left _ hr))
      (h.manner.symm.trans hv)
    obtain ⟨hs', hview'⟩ := h.exact hc hs (h.manner.symm.trans hv)
    exact ⟨hs', by rw [hview', hview, hfilter]⟩
  · have hstep := h.acks t ht
    have hbefore := hi.acks t ht
    simp only [List.flatMap_append, List.flatMap_singleton, List.count_append]
    omega
  · intro r hr x hx
    rcases List.mem_append.1 hr with hr | hr
    · exact hi.steps r hr x hx
    · -- the new reply is the call's own
      rw [List.mem_singleton] at hr
      subst hr
      rw [perform_call] at hx
      subst hx
      exact perform_recordStep s x

/-- The invariant holds after any sequence of calls. -/
theorem performAll_inv : ∀ {s : Stream} {log : List Reply} (cs : List Call), Inv s log →
    Inv (s.performAll cs).1 (log ++ (s.performAll cs).2)
  | _, _, [], hi => by simpa [performAll] using hi
  | s, log, c :: cs, hi => by
    simpa [performAll] using performAll_inv cs (perform_inv hi c)

/-- The viewer keeps its manner through any calls. -/
theorem performAll_dropsAfterEnd : ∀ (s : Stream) (cs : List Call),
    (s.performAll cs).1.viewer.dropsAfterEnd = s.viewer.dropsAfterEnd
  | _, [] => rfl
  | s, c :: cs => by
    simp only [performAll]
    rw [performAll_dropsAfterEnd, (perform_hands s c).manner]

@[simp] theorem performAll_calls : ∀ (s : Stream) (cs : List Call),
    (s.performAll cs).2.map (·.call) = cs
  | _, [] => rfl
  | s, c :: cs => by simp [performAll, performAll_calls _ cs]

/-- A wait whose acknowledgement has come makes no redial. -/
theorem redialRounds_of_contains {type : String} {s : Stream} (h : s.acks.contains type = true)
    (n : Nat) : redialRounds type n s = [] := by
  cases n <;> simp [redialRounds, List.contains_iff_mem.1 h]

/-- With no frame to read, reads change nothing. -/
theorem moves_read_none {s : Stream} (hframes : s.frames = []) :
    ∀ n, s.moves (List.replicate n .read) = s
  | 0 => rfl
  | n + 1 => by
    have hs : s.move .read = s := by
      rw [move]
      split
      · rfl
      · simp [hframes]
    rw [List.replicate_succ]
    show (s.move .read).moves (List.replicate n .read) = s
    rw [hs, moves_read_none hframes n]

/-- Reading every frame, when there is room for them all: the acknowledgements are kept in
order. -/
theorem moves_read_all {s : Stream} (hopen : s.closed = false)
    (hroom : s.acks.length + s.frames.length ≤ ackCapacity) :
    ∀ n, s.frames.length ≤ n →
      s.moves (List.replicate n .read) = { s with frames := [], acks := s.acks ++ s.frames } := by
  intro n hn
  induction n generalizing s with
  | zero =>
    have hf : s.frames = [] := List.eq_nil_of_length_eq_zero (by omega)
    rw [moves_read_none hf]
    cases s
    simp_all
  | succ n ih =>
    cases hf : s.frames with
    | nil =>
      rw [moves_read_none hf]
      cases s
      simp_all
    | cons a rest =>
      rw [hf] at hroom hn
      have hs : s.move .read = { s with frames := rest, acks := s.acks ++ [a] } := by
        simp only [move, hopen, Bool.false_eq_true, if_false, hf]
        rw [List.take_of_length_le (by simp at hroom ⊢; omega)]
      rw [List.replicate_succ]
      show (s.move .read).moves (List.replicate n .read) = _
      rw [hs, ih (by exact hopen) (by simp at hroom ⊢; omega) (by simp at hn ⊢; omega)]
      simp

/-- **A boundary call on a connected stream that holds nothing takes its own acknowledgement.**
Served in real time, the write loop delivers its message, the read loop reads the viewer's
answer, noise and all, and the call succeeds on the acknowledgement of its own message. -/
theorem boundary_call_takes_own_ack {s : Stream} {m : Envelope} (hm : IsBoundary m.type)
    (hup : s.link = .up) (hopen : s.closed = false) (hq : s.queue = #[]) (hframes : s.frames = [])
    (hacks : s.acks = []) :
    (s.sendAndWait m (waiting m.type)).1 = .ok () ∧
      (s.sendAndWait m (waiting m.type)).2.acks = [] ∧
      (s.sendAndWait m (waiting m.type)).2.viewer.messages = s.viewer.messages ++ [m] := by
  -- the viewer's answer: one acknowledgement of the type, perhaps after noise of another type
  obtain ⟨answers, hanswers⟩ : ∃ a, (s.viewer.receive m false).2.1 = a := ⟨_, rfl⟩
  have hans : answers = s.viewer.acksFor m.type := by
    rw [← hanswers, Viewer.receive_eq, if_pos hm]
  have hlen : answers.length ≤ 2 := by
    rw [hans, Viewer.acksFor]
    split <;> simp
  have hdrop : answers.dropWhile (· != m.type) = [m.type] := by
    have hother : ("other" != m.type) = true := by
      rcases hm with h | h <;> rw [h] <;> decide
    rw [hans, Viewer.acksFor]
    split <;> simp [hother]
  -- queued, written, read and found lost or not
  set s₁ : Stream := { s with queue := #[m] }
  have hsend : s.send m = (true, s₁) := by
    simp [send, hq, queueCapacity, s₁]
  have hwrite : s₁.move .write = { s₁ with queue := #[] }.deliver m false := by
    rw [move]
    simp [hopen, hup, s₁]
  set s₂ := { s₁ with queue := #[] }.deliver m false
  have hread : s₂.moves (List.replicate 2 .read) = { s₂ with frames := [], acks := answers } := by
    rw [moves_read_all (by simp [s₂, s₁, hopen])
      (by simp [s₂, s₁, hacks, hframes, hanswers, ackCapacity]; omega) 2
      (by simp [s₂, s₁, hframes, hanswers]; omega)]
    simp [s₂, s₁, hacks, hframes, hanswers]
  set s₃ := { s₂ with frames := [], acks := answers }
  have hfail : (s₃.move .fail).acks = answers ∧ (s₃.move .fail).closed = false ∧
      (s₃.move .fail).viewer = (s.viewer.receive m false).1 := by
    rw [move]
    split <;> simp [s₃, s₂, s₁, hopen]
  have hsettle : s₁.settle = s₃.move .fail := by
    have hsettling : s₁.settling = [.write] ++ List.replicate 2 .read ++ [.fail] := by
      simp [settling, s₁, hframes]
    unfold settle moves
    rw [hsettling, List.foldl_append, List.foldl_append, List.foldl_cons, List.foldl_nil,
      List.foldl_cons, List.foldl_nil, hwrite]
    unfold moves at hread
    rw [hread]
  -- the answer has come, so no redial is made while waiting
  have hcontains : (s₁.settle).acks.contains m.type = true := by
    rw [hsettle, hfail.1, List.contains_iff_mem]
    exact List.dropWhile_subset _ (by rw [hdrop]; exact List.mem_singleton_self _)
  have hwait : s₁.moves (waiting m.type s₁) = s₁.settle := by
    unfold waiting
    split
    · rw [redialRounds_of_contains hcontains, List.append_nil]
      rfl
    · rfl
  have hres : s.sendAndWait m (waiting m.type) = (.ok (), { s₁.settle with acks := [] }) := by
    rw [sendAndWait, hsend]
    dsimp only
    rw [hwait, awaitAck, hsettle, hfail.2.1, hfail.1, hdrop]
    rfl
  rw [hres]
  refine ⟨rfl, rfl, ?_⟩
  show (s₁.settle).viewer.messages = _
  rw [hsettle, hfail.2.2, Viewer.receive_messages]
  rfl

end Stream

/-- **What the viewer receives, and what a run's boundaries take.**  From a new stream, after
any sequence of calls, whatever moves the loops make between and during them: the messages the
viewer received, followed by those still queued, are some of the messages the calls handed
over, in call order, so each reaches the viewer at most once and none out of order; when the
connection never dropped and the viewer never hung up, they are all of them; a step is handed
over exactly when recording it succeeds; only openings of runs are sent again on reconnecting;
and for every type, the successful calls that waited for an acknowledgement of that type are no
more than the messages of that type the viewer received, new or sent again, each of which it
acknowledged. -/
theorem stream_keeps_order_and_ack_accounting (network : Network) (dropsAfterEnd noisy : Bool)
    (calls : List Call) :
    let r := Stream.performAll { network, viewer := { dropsAfterEnd, noisy } } calls
    (r.1.viewer.messages ++ r.1.queue.toList).Sublist (r.2.filterMap (·.handed)) ∧
      (dropsAfterEnd = false → (∀ c ∈ calls, c.Calm) →
        r.1.viewer.messages ++ r.1.queue.toList = r.2.filterMap (·.handed)) ∧
      (∀ rep ∈ r.2, ∀ x, rep.call = .recordStep x → (rep.ok = true ↔ rep.handed.isSome)) ∧
      (∀ m ∈ r.1.viewer.replays, m.type = startRunType) ∧
      ∀ t, (r.2.flatMap Reply.took).count t ≤ r.1.viewer.received t := by
  intro r
  have hi : Stream.Inv r.1 r.2 := by
    simpa using Stream.performAll_inv calls (Stream.inv_new network dropsAfterEnd noisy)
  refine ⟨hi.order, fun hv hcalm => (hi.exact (fun rep hrep => ?_) ?_).2, hi.steps, hi.opens.1,
    fun t => ?_⟩
  · -- the replies are those of the calls given
    have hmem : rep.call ∈ calls := by
      rw [← Stream.performAll_calls _ calls]
      exact List.mem_map_of_mem hrep
    exact hcalm _ hmem
  · rw [Stream.performAll_dropsAfterEnd]
    exact hv
  · by_cases ht : IsBoundary t
    · have := hi.acks t ht
      omega
    · -- no call waits for a type that is no boundary
      have h0 : (r.2.flatMap Reply.took).count t = 0 :=
        List.count_eq_zero.2 fun hmem => by
          obtain ⟨rep, -, htook⟩ := List.mem_flatMap.1 hmem
          exact ht (Reply.isBoundary_of_mem_took htook)
      omega

/-- A network on which the host `viewer.example` is a live viewer and no other host answers. -/
def viewerNet : Network := ⟨fun host _ => if host == "viewer.example" then .ok .viewer else .error "no such host"⟩

/-- A run closed before dialling times out, and its `end_run` waits in the queue. Dialling a
viewer that hangs up after acknowledging a run's end, the write loop delivers it; the next
`end_run` then succeeds on that acknowledgement, though the viewer never receives its message,
which is still queued while the reconnect loop waits to dial again. -/
theorem stale_ack_ends_unreceived_run :
    let r := Stream.performAll { network := viewerNet, viewer := { dropsAfterEnd := true } }
      [.endRun none (Stream.waiting endRunType), .dial "ws://viewer.example/api/v1/stream" "",
        .idle Stream.settling, .endRun none (Stream.waiting endRunType)]
    r.2.map (·.ok) = [false, true, true, true] ∧ r.1.viewer.received endRunType = 1 ∧
      r.1.queue.toList.map (·.type) = [endRunType] := by
  decide +kernel

end SailSim.Live
