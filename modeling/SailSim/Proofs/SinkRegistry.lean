import Mathlib
import SailSim.Proofs.BufferedSinks

/-!
# The sinks of a dispatcher and the fan-out of a publication

A dispatcher keeps one sink per name. Registering a name that is already there puts the new
sink in the old one's place; a new name comes last. Publishing hands the sample to every sink in
that order, whatever the earlier sinks answered, and answers the failures joined in sink order,
each as `<name>: <error>`.

This file follows a dispatcher through any run of registrations (any names, any delivery),
sends and closings (`Dispatcher.runEvents`), and says what its sinks are and what a publication
does with them. Go's `Publish` returns an error value, not only a text: the failures, each
wrapped with `%w` under its sink's name, joined by `errors.Join`. `GoError` states the part of
Go's `errors` package this relies on, and `Dispatcher.publicationError` the value `Publish`
builds.

## Main results

* `Dispatcher.runEvents_registry` : after any run from a new dispatcher, the sink names are the
  registered names without repeats, in the order of first registration, and each sink is the
  last registration of its name (`Dispatcher.Registry`).
* `Dispatcher.runEvents_sends` : a publication is one send to each sink, in order: the same
  dispatcher and handler state, and the same errors.
* `Dispatcher.publicationError_text`, `Dispatcher.publicationError_is` : the answer of a
  publication is the text of the joined, wrapped failures, and `errors.Is` finds every sink's
  error in it.
* `Dispatcher.sinks_registry_and_fan_out` : **the registry and the fan-out, over every run.**
-/

namespace SailSim

/-! ### Go's error values -/

/-- An error value as Go's `errors` package sees it: one made from its text (`errors.New`, or
`fmt.Errorf` without `%w`), one that wraps another (`fmt.Errorf` with one `%w`), or several
joined (`errors.Join`). -/
inductive GoError where
  | new (text : String)
  | wrap (text : String) (inner : GoError)
  | join (errs : List GoError)

/-- The text `Error()` gives: a joined error writes its errors' texts on separate lines. -/
def GoError.text : GoError → String
  | .new t => t
  | .wrap t _ => t
  | .join es => "\n".intercalate (es.map GoError.text)

/-- `errors.Is e target`: `target` is `e` itself, or is found by unwrapping `e`, through the one
error a wrapping error holds or any of the errors joined. -/
inductive GoError.Is : GoError → GoError → Prop
  | self (e : GoError) : GoError.Is e e
  | wrap {text : String} {inner target : GoError} :
      GoError.Is inner target → GoError.Is (.wrap text inner) target
  | join {es : List GoError} {e target : GoError} :
      e ∈ es → GoError.Is e target → GoError.Is (.join es) target

namespace Dispatcher

variable {σ : Type}

/-- The error value a publication answers, from the sends it made: the error of every send that
failed, wrapped as `<name>: <error>` and joined in order; none when no send failed. `orig` gives
the error value each send answered. -/
def publicationError (log : List Sent) (orig : Sent → GoError) : Option GoError :=
  match log.filter (·.answer.isSome) with
  | [] => none
  | fails => some (.join (fails.map fun t => .wrap (t.sink.name ++ ": " ++ (orig t).text) (orig t)))

/-- The lines of a publication's answer: `<name>: <error>` for every send that failed. -/
def failureLines (log : List Sent) : List String :=
  log.filterMap fun t => t.answer.map (t.sink.name ++ ": " ++ ·)

/-- The registration an event makes, if it makes one: its name and delivery. -/
def Event.registration? : Event → Option (String × Delivery)
  | .register name delivery => some (name, delivery)
  | _ => none

/-! ### What keeps the sinks -/

section Shape

variable (h : Handlers σ)

theorem foldl_drainStep_sinks (ks : List Nat) (acc : Dispatcher × σ) :
    (ks.foldl (drainStep h) acc).1.sinks = acc.1.sinks ∧
      (ks.foldl (drainStep h) acc).1.registrations = acc.1.registrations := by
  induction ks generalizing acc with
  | nil => exact ⟨rfl, rfl⟩
  | cons k ks ih =>
    obtain ⟨hs, hr⟩ := ih (drainStep h acc k)
    exact ⟨hs.trans (drainStep_shape h acc k).sinks, hr.trans (drainStep_registrations h acc k)⟩

/-- Consumers' turns leave the sinks and the registrations alone. -/
theorem drain_sinks (d : Dispatcher) (s : σ) :
    (drain h d s).1.sinks = d.sinks ∧ (drain h d s).1.registrations = d.registrations := by
  rw [drain_eq_foldl]
  exact foldl_drainStep_sinks h _ (d, s)

/-- Offering a sample to a sink leaves the sinks and the registrations alone. -/
theorem offer_sinks (d : Dispatcher) (s : σ) (x : StepSample) (e : SinkEntry) :
    (offer h d s x e).1.sinks = d.sinks ∧
      (offer h d s x e).1.registrations = d.registrations := by
  unfold offer
  split
  · exact ⟨rfl, rfl⟩
  · split
    · exact ⟨rfl, rfl⟩
    · split
      · exact ⟨rfl, rfl⟩
      · split
        · exact drain_sinks h _ s
        · exact ⟨rfl, rfl⟩

/-- Closing leaves the sinks and the registrations alone. -/
theorem close_sinks (d : Dispatcher) (s : σ) :
    (close h d s).1.sinks = d.sinks ∧ (close h d s).1.registrations = d.registrations := by
  unfold close
  split
  · exact ⟨rfl, rfl⟩
  · exact drain_sinks _ _ s

theorem withSink_sinks (d : Dispatcher) (entry : SinkEntry) :
    (withSink d entry).sinks =
      match d.sinks.findIdx? (fun (e : SinkEntry) => e.name == entry.name) with
      | some i => d.sinks.set! i entry
      | none => d.sinks.push entry := by
  unfold withSink
  cases d.sinks.findIdx? (fun (e : SinkEntry) => e.name == entry.name) <;> rfl

/-- Registering puts the new registration into the sinks by `withSink`, and counts it. -/
theorem register_sinks (d : Dispatcher) (s : σ) (name : String) (delivery : Delivery) :
    (register h d s name delivery).1.sinks =
        (withSink d ⟨name, d.registrations, delivery⟩).sinks ∧
      (register h d s name delivery).1.registrations = d.registrations + 1 := by
  cases delivery with
  | direct =>
    rw [register_direct]
    exact ⟨by rw [withSink_sinks, withSink_sinks], by simp⟩
  | queued cap blocking =>
    rw [register_queued]
    obtain ⟨hs, hr⟩ := drain_sinks h (openQueue { d with registrations := d.registrations + 1 }
      name d.registrations) s
    refine ⟨?_, by simpa [openQueue] using hr⟩
    rw [withSink_sinks, withSink_sinks, hs]
    rfl

end Shape

/-! ### The registry -/

theorem sinkNames_eq (d : Dispatcher) : d.sinkNames = d.sinks.toList.map SinkEntry.name := rfl

/-- Registering into sinks of distinct names: the sink of the name is replaced in its place, or
the new one comes last. -/
theorem withSink_toList {d : Dispatcher} (hnd : d.sinkNames.Nodup) (entry : SinkEntry) :
    (withSink d entry).sinks.toList =
      if entry.name ∈ d.sinkNames then
        d.sinks.toList.map fun e => if e.name = entry.name then entry else e
      else d.sinks.toList ++ [entry] := by
  rw [withSink_sinks]
  split
  · rename_i i hi
    obtain ⟨hlt, hname, -⟩ := Array.findIdx?_eq_some_iff_getElem.1 hi
    have hname' : d.sinks[i].name = entry.name := beq_iff_eq.1 hname
    have hmem : entry.name ∈ d.sinkNames := by
      rw [sinkNames_eq, ← hname']
      exact List.mem_map_of_mem (Array.getElem_mem_toList hlt)
    rw [if_pos hmem, Array.toList_set!]
    apply List.ext_getElem (by simp)
    intro j h₁ h₂
    rw [List.getElem_set, List.getElem_map]
    by_cases hij : i = j
    · subst hij
      simp [hname']
    · -- only the sink at `i` has the name, since the names are distinct
      have hj : j < d.sinks.toList.length := by simpa using h₂
      have hne : d.sinks.toList[j].name ≠ entry.name := by
        intro hj
        have hi' : i < d.sinkNames.length := by simpa [sinkNames_eq] using hlt
        have hj' : j < d.sinkNames.length := by simpa [sinkNames_eq] using h₂
        have heq : d.sinkNames[i] = d.sinkNames[j] := by
          simp only [sinkNames_eq, List.getElem_map, Array.getElem_toList]
          rw [hname', ← hj]
          rfl
        exact hij (hnd.getElem_inj_iff.1 heq)
      rw [if_neg hij, if_neg hne]
  · rename_i hnone
    have hall := Array.findIdx?_eq_none_iff.1 hnone
    have hnot : entry.name ∉ d.sinkNames := by
      rw [sinkNames_eq]
      intro hm
      obtain ⟨e, he, hen⟩ := List.mem_map.1 hm
      simpa [hen] using hall e (Array.mem_toList_iff.1 he)
    rw [if_neg hnot, Array.toList_push]

theorem hasSink_iff (d : Dispatcher) (name : String) :
    d.hasSink name = true ↔ name ∈ d.sinkNames := by
  rw [hasSink, ← Array.any_toList, List.any_eq_true, sinkNames_eq, List.mem_map]
  simp

theorem eraseDups_concat {α : Type} [BEq α] [LawfulBEq α] (l : List α) (a : α) :
    (l ++ [a]).eraseDups = if a ∈ l then l.eraseDups else l.eraseDups ++ [a] := by
  rw [List.eraseDups_append]
  by_cases ha : a ∈ l <;> simp [ha, List.removeAll, List.eraseDups_cons]

/-- The sinks after the registrations `regs`, registration `i` being the `i`-th of them: the
names are distinct, in the order of their first registrations, and each sink is the last
registration of its name. -/
structure Registry (regs : List (String × Delivery)) (d : Dispatcher) : Prop where
  names : d.sinkNames = (regs.map Prod.fst).eraseDups
  nodup : d.sinkNames.Nodup
  latest : ∀ e ∈ d.sinks.toList, regs[e.handler]? = some (e.name, e.delivery) ∧
    ∀ j p, e.handler < j → regs[j]? = some p → p.1 ≠ e.name
  count : d.registrations = regs.length

theorem registry_empty : Registry [] ({} : Dispatcher) where
  names := rfl
  nodup := List.nodup_nil
  latest := by intro e he; simp at he
  count := rfl

/-- The registry is a matter of the sinks and the count of registrations alone. -/
theorem Registry.of_sinks {regs : List (String × Delivery)} {d d' : Dispatcher}
    (hr : Registry regs d) (hs : d'.sinks = d.sinks) (hc : d'.registrations = d.registrations) :
    Registry regs d' := by
  have hn : d'.sinkNames = d.sinkNames := by simp [sinkNames_eq, hs]
  exact ⟨hn.trans hr.names, by rw [hn]; exact hr.nodup, by rw [hs]; exact hr.latest,
    hc.trans hr.count⟩

/-- A sink that is the last registration of its name stays so when a registration of another
name follows. -/
theorem latest_extend {regs : List (String × Delivery)} {e : SinkEntry} {p : String × Delivery}
    (he : regs[e.handler]? = some (e.name, e.delivery) ∧
      ∀ j q, e.handler < j → regs[j]? = some q → q.1 ≠ e.name)
    (hp : p.1 ≠ e.name) :
    (regs ++ [p])[e.handler]? = some (e.name, e.delivery) ∧
      ∀ j q, e.handler < j → (regs ++ [p])[j]? = some q → q.1 ≠ e.name := by
  obtain ⟨hget, hlater⟩ := he
  obtain ⟨hlt, -⟩ := List.getElem?_eq_some_iff.1 hget
  refine ⟨by rw [List.getElem?_append_left hlt]; exact hget, fun j q hj hq => ?_⟩
  rcases lt_trichotomy j regs.length with hjl | rfl | hjg
  · rw [List.getElem?_append_left hjl] at hq
    exact hlater j q hj hq
  · simp only [List.getElem?_append_right (le_refl _), Nat.sub_self, List.getElem?_cons_zero,
      Option.some.injEq] at hq
    rw [← hq]
    exact hp
  · rw [List.getElem?_eq_none (by simp; omega)] at hq
    cases hq

/-- The new registration is the last of its name. -/
theorem latest_new (regs : List (String × Delivery)) (name : String) (delivery : Delivery) :
    (regs ++ [(name, delivery)])[regs.length]? = some (name, delivery) ∧
      ∀ j q, regs.length < j → (regs ++ [(name, delivery)])[j]? = some q → q.1 ≠ name := by
  refine ⟨by simp, fun j q hj hq => ?_⟩
  rw [List.getElem?_eq_none (by simp; omega)] at hq
  cases hq

/-- Registering `name` keeps the registry, with the registration appended. -/
theorem Registry.withSink {regs : List (String × Delivery)} {d d' : Dispatcher}
    (hr : Registry regs d) (name : String) (delivery : Delivery)
    (hs : d'.sinks = (withSink d ⟨name, d.registrations, delivery⟩).sinks)
    (hc : d'.registrations = d.registrations + 1) :
    Registry (regs ++ [(name, delivery)]) d' := by
  have hmem : name ∈ d.sinkNames ↔ name ∈ regs.map Prod.fst := by
    rw [hr.names, List.mem_eraseDups]
  have hlist := withSink_toList hr.nodup ⟨name, d.registrations, delivery⟩
  rw [← hs, hr.count] at hlist
  have hcount : d'.registrations = (regs ++ [(name, delivery)]).length := by
    simp [hc, hr.count]
  by_cases hin : name ∈ d.sinkNames
  · -- the name is there: its sink is replaced in place, and the names stay
    rw [if_pos hin] at hlist
    have hnames : d'.sinkNames = d.sinkNames := by
      rw [sinkNames_eq, hlist, List.map_map, sinkNames_eq]
      congr 1
      funext e
      by_cases he : e.name = name <;> simp [he]
    refine ⟨?_, by rw [hnames]; exact hr.nodup, fun e he => ?_, hcount⟩
    · rw [hnames, hr.names, List.map_append, List.map_singleton, eraseDups_concat,
        if_pos (hmem.1 hin)]
    · rw [hlist] at he
      obtain ⟨e', he', rfl⟩ := List.mem_map.1 he
      by_cases hn : e'.name = name
      · simp only [hn, if_true]
        exact latest_new regs name delivery
      · simp only [hn, if_false]
        exact latest_extend (hr.latest e' he') (Ne.symm hn)
  · -- a new name: its sink comes last
    rw [if_neg hin] at hlist
    have hnames : d'.sinkNames = d.sinkNames ++ [name] := by
      rw [sinkNames_eq, hlist, sinkNames_eq]
      simp
    refine ⟨?_, ?_, fun e he => ?_, hcount⟩
    · rw [hnames, hr.names, List.map_append, List.map_singleton, eraseDups_concat,
        if_neg (fun h => hin (hmem.2 h))]
    · rw [hnames]
      exact List.nodup_append.2 ⟨hr.nodup, List.nodup_singleton _, fun a ha b hb hab => by
        rw [List.mem_singleton] at hb
        rw [hab, hb] at ha
        exact hin ha⟩
    · rw [hlist, List.mem_append, List.mem_singleton] at he
      rcases he with he | rfl
      · have hne : e.name ≠ name := fun hen =>
          hin (by rw [← hen, sinkNames_eq]; exact List.mem_map_of_mem he)
        exact latest_extend (hr.latest e he) (Ne.symm hne)
      · exact latest_new regs name delivery

variable (h : Handlers σ)

/-- One event keeps the registry, with its registration, if any, appended. -/
theorem happen_registry {regs : List (String × Delivery)} {acc : Dispatcher × σ}
    (hr : Registry regs acc.1) (ev : Event) :
    Registry (regs ++ ev.registration?.toList) (happen h acc ev).1 := by
  cases ev with
  | register name delivery =>
    obtain ⟨hs, hc⟩ := register_sinks h acc.1 acc.2 name delivery
    change Registry (regs ++ [(name, delivery)]) (register h acc.1 acc.2 name delivery).1
    exact hr.withSink name delivery hs hc
  | send x k =>
    cases hk : acc.1.sinks[k]? with
    | none => simpa [happen, hk, Event.registration?] using hr
    | some e =>
      obtain ⟨hs, hc⟩ := offer_sinks h acc.1 acc.2 x e
      simpa [happen, hk, Event.registration?] using hr.of_sinks hs hc
  | close =>
    obtain ⟨hs, hc⟩ := close_sinks h acc.1 acc.2
    simpa [Event.registration?, happen] using hr.of_sinks hs hc

/-- Every run keeps the registry, with the run's registrations appended. -/
theorem runEvents_registry : ∀ (evs : List Event) {regs : List (String × Delivery)}
    (acc : Dispatcher × σ), Registry regs acc.1 →
    Registry (regs ++ evs.filterMap Event.registration?) (runEvents h acc evs).1
  | [], regs, acc, hr => by simpa [runEvents] using hr
  | ev :: evs, regs, acc, hr => by
    have hrest := runEvents_registry evs ((happen h acc ev).1, (happen h acc ev).2.1)
      (happen_registry h hr ev)
    have hcons : regs ++ (ev :: evs).filterMap Event.registration? =
        regs ++ ev.registration?.toList ++ evs.filterMap Event.registration? := by
      cases hev : ev.registration? <;> simp [hev]
    rw [hcons]
    exact hrest

/-! ### A publication is one send to each sink -/

/-- Sends of `x` to the sinks at the positions `ks`, which hold `es`: the dispatcher and the
handlers' state end as after the sinks' turns of a publication over `es`, the log names `es` in
order, each with `x`, and the publication's error lines grow by the log's failure lines. -/
theorem runEvents_sends (x : StepSample) : ∀ (ks : List Nat) (es : List SinkEntry)
    (acc : Dispatcher × σ) (errs : List String), ks.map (acc.1.sinks[·]?) = es.map some →
    ((runEvents h acc (ks.map (Event.send x))).1, (runEvents h acc (ks.map (Event.send x))).2.1) =
        ((es.foldl (publishStep h x) (acc.1, acc.2, errs)).1,
          (es.foldl (publishStep h x) (acc.1, acc.2, errs)).2.1) ∧
      (runEvents h acc (ks.map (Event.send x))).2.2.map Sent.sink = es ∧
      (∀ t ∈ (runEvents h acc (ks.map (Event.send x))).2.2, t.sample = x) ∧
      (es.foldl (publishStep h x) (acc.1, acc.2, errs)).2.2 =
        errs ++ failureLines (runEvents h acc (ks.map (Event.send x))).2.2
  | [], es, acc, errs, hk => by
    cases es with
    | nil => simp [runEvents, failureLines]
    | cons e es => simp at hk
  | k :: ks, es, acc, errs, hk => by
    cases es with
    | nil => simp at hk
    | cons e es =>
      simp only [List.map_cons, List.cons.injEq] at hk
      obtain ⟨hke, hks⟩ := hk
      -- the send to `k` is the offer to `e`, which leaves the sinks as they were
      let r := offer h acc.1 acc.2 x e
      have hsinks := (offer_sinks h acc.1 acc.2 x e).1
      have hks' : ks.map ((r.1, r.2.1).1.sinks[·]?) = es.map some := by
        rw [← hks]; simp [r, hsinks]
      obtain ⟨hstate, hlog, hsample, herrs⟩ :=
        runEvents_sends x ks es (r.1, r.2.1) (publishStep h x (acc.1, acc.2, errs) e).2.2 hks'
      have hhappen : happen h acc (Event.send x k) = (r.1, r.2.1, some ⟨e, x, r.2.2⟩) := by
        simp [happen, hke, r]
      have hstep : publishStep h x (acc.1, acc.2, errs) e =
          (r.1, r.2.1, (publishStep h x (acc.1, acc.2, errs) e).2.2) := rfl
      simp only [List.map_cons, runEvents, hhappen, List.foldl_cons]
      rw [hstep]
      refine ⟨hstate, by simpa using hlog, ?_, ?_⟩
      · intro t ht
        simp only [Option.toList_some, List.singleton_append, List.mem_cons] at ht
        rcases ht with rfl | ht
        · rfl
        · exact hsample t ht
      · rw [herrs]
        cases hans : r.2.2 with
        | none => simp [publishStep, failureLines, r, hans] at hans ⊢
        | some m => simp [publishStep, failureLines, r, hans] at hans ⊢

theorem range_map_getElem? (d : Dispatcher) :
    (List.range d.sinks.size).map (d.sinks[·]?) = d.sinks.toList.map some := by
  apply List.ext_getElem (by simp)
  intro i h₁ h₂
  simp

/-- A publication, as sends: one to every sink, in order, with its answer. -/
theorem publish_as_sends (d : Dispatcher) (s : σ) (x : StepSample) :
    let sends := runEvents h (d, s) ((List.range d.sinks.size).map (Event.send x))
    ((publish h d s x).1, (publish h d s x).2.1) = (sends.1, sends.2.1) ∧
      sends.2.2.map Sent.sink = d.sinks.toList ∧ (∀ t ∈ sends.2.2, t.sample = x) ∧
      (publish h d s x).2.2 =
        if (failureLines sends.2.2).isEmpty then none
        else some ("\n".intercalate (failureLines sends.2.2)) := by
  intro sends
  obtain ⟨hstate, hlog, hsample, herrs⟩ :=
    runEvents_sends h x (List.range d.sinks.size) d.sinks.toList (d, s) [] (range_map_getElem? d)
  rw [List.nil_append] at herrs
  refine ⟨?_, hlog, hsample, ?_⟩
  · rw [publish_eq]
    exact hstate.symm
  · rw [publish_eq]
    simp only [herrs]
    rfl

/-! ### The error a publication answers -/

/-- The failed sends, each as the line `<name>: <error>` of its error value's text. -/
theorem map_filter_failed {orig : Sent → GoError}
    (horig : ∀ t m, t.answer = some m → (orig t).text = m) (log : List Sent) :
    (log.filter (·.answer.isSome)).map (fun t => t.sink.name ++ ": " ++ (orig t).text) =
      failureLines log := by
  induction log with
  | nil => rfl
  | cons t log ih =>
    cases hans : t.answer with
    | none => simpa [failureLines, hans] using ih
    | some m => simpa [failureLines, hans, horig t m hans] using ih

theorem publicationError_eq (log : List Sent) (orig : Sent → GoError) :
    publicationError log orig =
      if log.filter (·.answer.isSome) = [] then none
      else some (.join ((log.filter (·.answer.isSome)).map fun t =>
        .wrap (t.sink.name ++ ": " ++ (orig t).text) (orig t))) := by
  unfold publicationError
  split <;> simp_all

/-- When every failed send's error value has the text the send answered, the text of the
publication's error value is the publication's answer. -/
theorem publicationError_text {orig : Sent → GoError}
    (horig : ∀ t m, t.answer = some m → (orig t).text = m) (log : List Sent) :
    (publicationError log orig).map GoError.text =
      if (failureLines log).isEmpty then none else some ("\n".intercalate (failureLines log)) := by
  have hlines := map_filter_failed horig log
  rw [publicationError_eq]
  by_cases hf : log.filter (·.answer.isSome) = []
  · rw [if_pos hf, ← hlines, hf]
    rfl
  · have hne : (failureLines log).isEmpty = false := by
      rw [← hlines]
      simpa using hf
    rw [if_neg hf, hne, Option.map_some, GoError.text, List.map_map, ← hlines, if_neg Bool.false_ne_true]
    simp [Function.comp_def, GoError.text]

/-- `errors.Is` finds the error value of every failed send in the publication's error. -/
theorem publicationError_is (orig : Sent → GoError) {log : List Sent} {t : Sent}
    (ht : t ∈ log) (hfail : t.answer.isSome) :
    ∃ e, publicationError log orig = some e ∧ e.Is (orig t) := by
  have hmem : t ∈ log.filter (·.answer.isSome) := List.mem_filter.2 ⟨ht, hfail⟩
  have hne : log.filter (·.answer.isSome) ≠ [] := List.ne_nil_of_mem hmem
  rw [publicationError_eq, if_neg hne]
  exact ⟨_, rfl, .join (List.mem_map_of_mem hmem) (.wrap (.self _))⟩

theorem failureLines_eq_nil (log : List Sent) :
    failureLines log = [] ↔ ∀ t ∈ log, t.answer = none := by
  simp [failureLines, List.filterMap_eq_nil_iff]

/-- **The registry and the fan-out, over every run.** From a new dispatcher, after any run of
registrations (any names, any delivery), sends and closings: the sink names are the registered
names, each once, in the order of their first registrations; a name has a sink exactly when it is
listed; and each sink is the last registration of its name. A publication then makes one send to
every sink, in that order, whatever the earlier sinks answered, and ends in the state those sends
leave; it answers nothing exactly when no sink failed, and otherwise the text of `errors.Join` of
the failures in sink order, each wrapped as `<name>: <error>` with `%w`, in which `errors.Is` finds
the error value every failing sink answered. -/
theorem sinks_registry_and_fan_out (s₀ : σ) (evs : List Event) (x : StepSample) :
    let r := runEvents h ({}, s₀) evs
    let regs := evs.filterMap Event.registration?
    let sends := runEvents h (r.1, r.2.1) ((List.range r.1.sinks.size).map (Event.send x))
    let pub := publish h r.1 r.2.1 x
    (r.1.sinkNames = (regs.map Prod.fst).eraseDups ∧ r.1.sinkNames.Nodup) ∧
    (∀ name, r.1.hasSink name = true ↔ name ∈ r.1.sinkNames) ∧
    (∀ e ∈ r.1.sinks.toList, regs[e.handler]? = some (e.name, e.delivery) ∧
      ∀ j p, e.handler < j → regs[j]? = some p → p.1 ≠ e.name) ∧
    (pub.1, pub.2.1) = (sends.1, sends.2.1) ∧
    sends.2.2.map Sent.sink = r.1.sinks.toList ∧ (∀ t ∈ sends.2.2, t.sample = x) ∧
    (pub.2.2 = none ↔ ∀ t ∈ sends.2.2, t.answer = none) ∧
    ∀ orig : Sent → GoError, (∀ t m, t.answer = some m → (orig t).text = m) →
      pub.2.2 = (publicationError sends.2.2 orig).map GoError.text ∧
      ∀ t ∈ sends.2.2, t.answer.isSome →
        ∃ e, publicationError sends.2.2 orig = some e ∧ e.Is (orig t) := by
  intro r regs sends pub
  have hreg : Registry regs r.1 := by
    simpa using runEvents_registry h evs ({}, s₀) registry_empty
  obtain ⟨hstate, hlog, hsample, hanswer⟩ := publish_as_sends h r.1 r.2.1 x
  refine ⟨⟨hreg.names, hreg.nodup⟩, hasSink_iff r.1, hreg.latest, hstate, hlog, hsample, ?_,
    fun orig horig => ⟨?_, fun t ht hfail => publicationError_is orig ht hfail⟩⟩
  · -- no answer exactly when there are no failure lines
    change (publish h r.1 r.2.1 x).2.2 = none ↔ _
    rw [hanswer, ← failureLines_eq_nil]
    cases failureLines sends.2.2 <;> simp
  · change (publish h r.1 r.2.1 x).2.2 = _
    rw [hanswer, publicationError_text horig]

/-- Handlers under which registration `1` fails every sample with `disk full`. -/
def failingSecond : Handlers Unit where
  handle s j _ := (s, if j = 1 then some "disk full" else none)
  stalled _ _ := false

/-- Registering `a`, `b` and `a` again: the publication's answer is the text of the joined
failures, with each send's error value taken as the plain error of its text, and it is the line
of `b`. -/
theorem second_sink_failure_is_the_answer :
    let r := runEvents failingSecond ({}, ())
      [.register "a" .direct, .register "b" .direct, .register "a" .direct]
    let sends := runEvents failingSecond (r.1, r.2.1)
      ((List.range r.1.sinks.size).map (Event.send (StepSample.zero 1)))
    (publish failingSecond r.1 r.2.1 (StepSample.zero 1)).2.2 =
        (publicationError sends.2.2 fun t => .new (t.answer.getD "")).map GoError.text ∧
      (publish failingSecond r.1 r.2.1 (StepSample.zero 1)).2.2 = some "b: disk full" := by
  intro r sends
  have hfan := sinks_registry_and_fan_out failingSecond ()
    [.register "a" .direct, .register "b" .direct, .register "a" .direct] (StepSample.zero 1)
  refine ⟨(hfan.2.2.2.2.2.2.2 _ fun t m hm => by simp [GoError.text, hm]).1, ?_⟩
  decide +kernel

end Dispatcher

end SailSim
