/-
# Channel.Integrity -- control messages arrive whole and in order

`Peers.Sound` joins what the tasks keep to what the lanes keep; every step keeps it, so
`integrity` holds of every run.  The second half of the result is about what comes after
a frame was cut: the task that wrote it has ended, or the loop has left, and nobody else
writes to that stream or reads from it (`write_ended`, `read_ended`).
-/
import RustSsh.Channel.Tasks

namespace RustSsh.Channel

open RustSsh.Theory RustSsh.Protocol RustSsh.Noise
open RustSsh.Server (ReaderTask)

set_option autoImplicit false

variable {S R : Type}

/-! ## The agent's pings -/

/-- The agent begins only `Ping`s, each when the one before it is written. -/
structure Pings (point : Agent.LoopPoint) (l : Lane S R) : Prop where
  idle : point = .select → l.writing = none
  only : ∀ m ∈ l.begun, m = .ping

theorem Pings.step {codec : Codec} {c c' : Agent.Control} {e : Agent.ControlEvent} {l : Lane S R}
    (pings : Pings c.point l) (unwritten : e ≠ .pinged) (taken : c.step e = some c') :
    Pings c'.point (if e = .ping then l.beginFrame codec .ping else l) := by
  by_cases begins : e = .ping
  · subst begins
    simp only [Agent.Control.step] at taken
    split at taken <;> cases taken
    refine ⟨?_, ?_⟩
    · intro select
      cases select
    · intro m inside
      simp only [if_true, Lane.beginFrame] at inside
      split at inside
      · simp only [List.mem_append, List.mem_singleton] at inside
        cases inside with
        | inl earlier => exact pings.only m earlier
        | inr last => exact last
      · exact pings.only m inside
  · rw [if_neg begins]
    refine ⟨?_, pings.only⟩
    intro select
    apply pings.idle
    cases e with
    | ping => exact absurd rfl begins
    | pinged => exact absurd rfl unwritten
    | readFrame m | readError | deliver | frame | sessionDone | readerDone | pingFailed
      | heartbeatDead | joinReader | drop =>
        simp only [Agent.Control.step] at taken
        (repeat' split at taken) <;> cases taken <;>
          first | exact select | assumption | cases select

/-- A poll of the `write_frame` of a `Ping`. -/
theorem Pings.poll {l l' : Lane S R} (pings : Pings .pinging l) {cipher : Cipher S R}
    {answers : List (Poll Nat)} {innerFlush : Poll Unit} {progress : WriteProgress}
    (polled : l.pollWriteFrame cipher answers innerFlush = some (l', progress)) :
    Pings .pinging l' ∧ (progress = .written → Pings .select l') := by
  obtain ⟨-, begun, after⟩ := Lane.pollWriteFrame_writing polled
  simp only at begun after
  have only : ∀ m ∈ l'.begun, m = .ping := by
    rw [begun]
    exact pings.only
  refine ⟨⟨?_, only⟩, fun written => ⟨fun _ => ?_, only⟩⟩
  · intro select
    cases select
  · cases after with
    | inl done => exact done.2
    | inr going => exact absurd written going.1

/-! ## The invariant -/

namespace Peers

structure Sound (setup : Setup S R) (c : Peers S R) : Prop where
  down : c.down.Sound setup.cipher setup.codec setup.downKeys.1 setup.downKeys.2
  up : c.up.Sound setup.cipher setup.codec setup.upKeys.1 setup.upKeys.2
  relayHears : Hears setup.codec c.relay.reader c.relay.frames c.relayActed c.up
  agentHears : Hears setup.codec c.agent.reader c.agent.frames c.agentActed c.down
  answers : Answers c.relay.point c.dequeued c.relayActed c.handed
  hands : Hands c.relay.writer c.relay.outgoing c.handed c.down
  pings : Pings c.agent.point c.up

/-- The keys of both directions fit. -/
structure Keyed (setup : Setup S R) : Prop where
  down : setup.cipher.Inverts setup.downKeys.1 setup.downKeys.2
  up : setup.cipher.Inverts setup.upKeys.1 setup.upKeys.2

variable {setup : Setup S R} {c c' : Peers S R}

theorem sound_start (setup : Setup S R) : Sound setup (start setup) := by
  refine ⟨Lane.sound_start _ _ _ _, Lane.sound_start _ _ _ _, hears_start _ _ _, hears_start _ _ _,
    answers_start, ⟨fun _ => rfl, List.prefix_rfl, fun _ => rfl⟩, ⟨fun _ => rfl, ?_⟩⟩
  intro m inside
  cases inside

/-- A message is taken up by a writer task that has none. -/
theorem takesUp_idle {relay relay' : Server.Control} {e : Server.ControlEvent} {m : Message}
    (taken : relay.step e = some relay') (takes : relay.takesUp e = some m) : relay.writer = .idle := by
  cases e <;> simp only [Server.Control.takesUp] at takes <;> try cases takes
  simp only [Server.Control.step] at taken
  split at taken
  · assumption
  · cases taken

/-- A step of the relay, given what it does for its two tasks. -/
theorem Sound.relayStep (sound : Sound setup c) {e : Server.ControlEvent}
    (taken : c.relayStep setup.codec e = some c')
    (hears : ∀ relay, c.relay.step e = some relay →
      Hears setup.codec relay.reader relay.frames (c.relayActed ++ (c.relay.actsOn e).toList) c.up)
    (hands : ∀ relay, c.relay.step e = some relay →
      Hands relay.writer relay.outgoing (c.handed ++ (c.relay.handsOver e).toList)
        (match c.relay.takesUp e with | some m => c.down.beginFrame setup.codec m | none => c.down)) :
    Sound setup c' := by
  obtain ⟨relay, next, rfl⟩ := Option.map_eq_some_iff.mp taken
  have answers := sound.answers.step (relay_loops next)
  refine ⟨?_, sound.up, hears relay next, ?_, answers, hands relay next, sound.pings⟩
  · simp only
    cases takes : c.relay.takesUp e with
    | none => exact sound.down
    | some m => exact sound.down.beginFrame (sound.hands.idle (takesUp_idle next takes)) m
  · simp only
    cases c.relay.takesUp e with
    | none => exact sound.agentHears
    | some m => exact sound.agentHears.unread (Lane.beginFrame_unread c.down m)

/-- A step of the relay that polls nothing. -/
theorem Sound.relayEvent (sound : Sound setup c) {e : Server.ControlEvent}
    (unpolled : relayPolls e = false) (taken : c.relayStep setup.codec e = some c') :
    Sound setup c' := by
  refine sound.relayStep taken (fun relay next => ?_) (fun relay next => ?_)
  · exact sound.relayHears.handle (relay_handles unpolled next)
  · apply sound.hands.step
    apply relay_writes ?_ next
    intro m wrote
    rw [wrote] at unpolled
    cases unpolled

/-- A step of the agent, given what it does for its reader task and its pings. -/
theorem Sound.agentStep (sound : Sound setup c) {e : Agent.ControlEvent}
    (taken : c.agentStep setup.codec e = some c')
    (hears : ∀ agent, c.agent.step e = some agent →
      Hears setup.codec agent.reader agent.frames (c.agentActed ++ (c.agent.actsOn e).toList) c.down)
    (pings : ∀ agent, c.agent.step e = some agent →
      Pings agent.point (if e = .ping then c.up.beginFrame setup.codec .ping else c.up)) :
    Sound setup c' := by
  obtain ⟨agent, next, rfl⟩ := Option.map_eq_some_iff.mp taken
  refine ⟨sound.down, ?_, ?_, hears agent next, sound.answers, sound.hands, pings agent next⟩
  · by_cases begins : e = .ping
    · simp only [begins, if_true]
      apply sound.up.beginFrame
      apply sound.pings.idle
      rw [begins] at next
      simp only [Agent.Control.step] at next
      split at next
      · rename_i waiting
        exact waiting.1
      · cases next
    · simp only [begins, if_false]
      exact sound.up
  · by_cases begins : e = .ping
    · simp only [begins, if_true]
      exact sound.relayHears.unread (Lane.beginFrame_unread c.up .ping)
    · simp only [begins, if_false]
      exact sound.relayHears

theorem Sound.agentEvent (sound : Sound setup c) {e : Agent.ControlEvent}
    (unpolled : agentPolls e = false) (taken : c.agentStep setup.codec e = some c') :
    Sound setup c' := by
  refine sound.agentStep taken (fun agent next => ?_) (fun agent next => ?_)
  · exact sound.agentHears.handle (agent_handles unpolled next)
  · apply sound.pings.step ?_ next
    intro pinged
    rw [pinged] at unpolled
    cases unpolled

/-! ### Polls -/

theorem Sound.relayWrite (keyed : Keyed setup) (sound : Sound setup c)
    {answers : List (Poll Nat)} {innerFlush : Poll Unit}
    (taken : c.step setup (.relayWrite answers innerFlush) = some c') : Sound setup c' := by
  simp only [Peers.step] at taken
  cases task : c.relay.writer with
  | idle => simp [task] at taken
  | ended => simp [task] at taken
  | writing m =>
      cases polled : c.down.pollWriteFrame setup.cipher answers innerFlush with
      | none => simp [task, polled] at taken
      | some moved =>
          obtain ⟨down, progress⟩ := moved
          have hands := sound.hands
          rw [task] at hands
          have moves := hands.poll polled
          have next : down.Sound _ _ _ _ := sound.down.pollWriteFrame keyed.down polled
          have hears := sound.agentHears.unread (Lane.pollWriteFrame_unread polled)
          cases progress with
          | more =>
              simp only [task, polled, Option.some.injEq] at taken
              subst taken
              exact ⟨next, sound.up, sound.relayHears, hears, sound.answers, by rw [task]; exact moves,
                sound.pings⟩
          | failed =>
              simp only [task, polled] at taken
              have here : Sound setup { c with down } :=
                ⟨next, sound.up, sound.relayHears, hears, sound.answers, by rw [task]; exact moves,
                  sound.pings⟩
              exact here.relayEvent rfl taken
          | written =>
              simp only [task, polled, Peers.relayStep, Server.Control.step, if_true,
                Option.map_some, Option.some.injEq] at taken
              subst taken
              simp only [Server.Control.takesUp, Server.Control.handsOver, Server.Control.actsOn,
                dequeues, Option.toList_none, List.append_nil]
              exact ⟨next, sound.up, sound.relayHears, hears, sound.answers, moves, sound.pings⟩

theorem Sound.agentWrite (keyed : Keyed setup) (sound : Sound setup c)
    {answers : List (Poll Nat)} {innerFlush : Poll Unit}
    (taken : c.step setup (.agentWrite answers innerFlush) = some c') : Sound setup c' := by
  simp only [Peers.step] at taken
  cases point : c.agent.point with
  | select => simp [point] at taken
  | joinReader => simp [point] at taken
  | left => simp [point] at taken
  | dropped => simp [point] at taken
  | pinging =>
      cases polled : c.up.pollWriteFrame setup.cipher answers innerFlush with
      | none => simp [point, polled] at taken
      | some moved =>
          obtain ⟨up, progress⟩ := moved
          have pings := sound.pings
          rw [point] at pings
          obtain ⟨still, done⟩ := pings.poll polled
          have next : up.Sound _ _ _ _ := sound.up.pollWriteFrame keyed.up polled
          have hears := sound.relayHears.unread (Lane.pollWriteFrame_unread polled)
          have here : Sound setup { c with up } :=
            ⟨sound.down, next, hears, sound.agentHears, sound.answers, sound.hands,
              by rw [point]; exact still⟩
          cases progress with
          | more =>
              simp only [point, polled, Option.some.injEq] at taken
              subst taken
              exact here
          | failed =>
              simp only [point, polled] at taken
              exact here.agentEvent rfl taken
          | written =>
              simp only [point, polled] at taken
              refine here.agentStep taken (fun agent after => ?_) (fun agent after => ?_)
              · simp only [Agent.Control.step, point, if_true, Option.some.injEq] at after
                subst after
                simp only [Agent.Control.actsOn, Option.toList_none, List.append_nil]
                exact sound.agentHears
              · simp only [Agent.Control.step, point, if_true, Option.some.injEq] at after
                subst after
                exact done rfl

theorem Sound.relayRead (keyed : Keyed setup) (sound : Sound setup c) {answers : List Arrival}
    (taken : c.step setup (.relayRead answers) = some c') : Sound setup c' := by
  simp only [Peers.step] at taken
  cases task : c.relay.reader with
  | delivering m => simp [task] at taken
  | ended => simp [task] at taken
  | reading =>
      cases polled : c.up.pollReadFrame setup.cipher setup.codec answers with
      | none => simp [task, polled] at taken
      | some moved =>
          obtain ⟨up, progress⟩ := moved
          have hears := sound.relayHears
          rw [task] at hears
          obtain ⟨next, intact⟩ := sound.up.pollReadFrame keyed.up (hears.intact (by simp)) polled
          have moves := hears.poll polled intact
          have unwritten : c.up.Unwritten up := Lane.pollReadFrame_unwritten polled
          have pings : Pings c.agent.point up :=
            ⟨fun select => by rw [unwritten.writing]; exact sound.pings.idle select,
              by rw [unwritten.begun]; exact sound.pings.only⟩
          cases progress with
          | more =>
              simp only [task, polled, Option.some.injEq] at taken
              subst taken
              exact ⟨sound.down, next, by rw [task]; exact moves, sound.agentHears, sound.answers,
                sound.hands, pings⟩
          | message m =>
              simp only [task, polled, Peers.relayStep, Server.Control.step, Option.map_some,
                Option.some.injEq] at taken
              subst taken
              simp only [Server.Control.takesUp, Server.Control.handsOver, Server.Control.actsOn,
                dequeues, Option.toList_none, List.append_nil]
              exact ⟨sound.down, next, moves, sound.agentHears, sound.answers, sound.hands, pings⟩
          | failed =>
              simp only [task, polled, Peers.relayStep, Server.Control.step, Option.map_some,
                Option.some.injEq] at taken
              subst taken
              simp only [Server.Control.takesUp, Server.Control.handsOver, Server.Control.actsOn,
                dequeues, Option.toList_none, List.append_nil]
              exact ⟨sound.down, next, moves, sound.agentHears, sound.answers, sound.hands, pings⟩

theorem Sound.agentRead (keyed : Keyed setup) (sound : Sound setup c) {answers : List Arrival}
    (taken : c.step setup (.agentRead answers) = some c') : Sound setup c' := by
  simp only [Peers.step] at taken
  cases task : c.agent.reader with
  | delivering m => simp [task] at taken
  | ended => simp [task] at taken
  | reading =>
      cases polled : c.down.pollReadFrame setup.cipher setup.codec answers with
      | none => simp [task, polled] at taken
      | some moved =>
          obtain ⟨down, progress⟩ := moved
          have hears := sound.agentHears
          rw [task] at hears
          obtain ⟨next, intact⟩ := sound.down.pollReadFrame keyed.down (hears.intact (by simp)) polled
          have moves := hears.poll polled intact
          have unwritten : c.down.Unwritten down := Lane.pollReadFrame_unwritten polled
          have hands : Hands c.relay.writer c.relay.outgoing c.handed down := by
            obtain ⟨idle, begun, all⟩ := sound.hands
            rw [← unwritten.writing] at idle all
            rw [← unwritten.begun] at begun all
            exact ⟨idle, begun, all⟩
          cases progress with
          | more =>
              simp only [task, polled, Option.some.injEq] at taken
              subst taken
              exact ⟨next, sound.up, sound.relayHears, by rw [task]; exact moves, sound.answers,
                hands, sound.pings⟩
          | message m =>
              simp only [task, polled, Peers.agentStep, Agent.Control.step, Option.map_some,
                Option.some.injEq] at taken
              subst taken
              simp only [Agent.Control.actsOn, Option.toList_none, List.append_nil]
              exact ⟨next, sound.up, sound.relayHears, moves, sound.answers, hands, sound.pings⟩
          | failed =>
              simp only [task, polled, Peers.agentStep, Agent.Control.step, Option.map_some,
                Option.some.injEq] at taken
              subst taken
              simp only [Agent.Control.actsOn, Option.toList_none, List.append_nil]
              exact ⟨next, sound.up, sound.relayHears, moves, sound.answers, hands, sound.pings⟩

theorem Sound.step (keyed : Keyed setup) {act : Act} (sound : Sound setup c)
    (taken : c.step setup act = some c') : Sound setup c' := by
  cases act with
  | relay e =>
      simp only [Peers.step] at taken
      cases polls : relayPolls e with
      | true => simp [polls] at taken
      | false =>
          rw [polls] at taken
          exact sound.relayEvent polls taken
  | agent e =>
      simp only [Peers.step] at taken
      cases polls : agentPolls e with
      | true => simp [polls] at taken
      | false =>
          rw [polls] at taken
          exact sound.agentEvent polls taken
  | relayWrite answers innerFlush => exact sound.relayWrite keyed taken
  | relayRead answers => exact sound.relayRead keyed taken
  | agentWrite answers innerFlush => exact sound.agentWrite keyed taken
  | agentRead answers => exact sound.agentRead keyed taken

/-! ## After a cut -/

/-- The loop of the agent has been left, so its `writer` is not used again. -/
def pastLoop : Agent.LoopPoint → Bool
  | .select => false
  | .pinging => false
  | _ => true

theorem relayStep_writer {codec : Codec} {e : Server.ControlEvent} (ended : c.relay.writer = .ended)
    (taken : c.relayStep codec e = some c') : c'.relay.writer = .ended ∧ c'.down = c.down := by
  obtain ⟨relay, next, rfl⟩ := Option.map_eq_some_iff.mp taken
  have unwritten (m : Message) : e ≠ .wrote m := by
    intro wrote
    rw [wrote] at next
    simp [Server.Control.step, ended] at next
  have writes := relay_writes unwritten next
  rw [ended] at writes
  obtain ⟨still, none_taken⟩ := writes.ended
  exact ⟨still, by simp only [none_taken]⟩

theorem relayStep_reader {codec : Codec} {e : Server.ControlEvent} (ended : c.relay.reader = .ended)
    (taken : c.relayStep codec e = some c') : c'.relay.reader = .ended ∧ c'.up = c.up := by
  obtain ⟨relay, next, rfl⟩ := Option.map_eq_some_iff.mp taken
  refine ⟨?_, rfl⟩
  cases polls : relayPolls e with
  | true =>
      cases e <;> simp only [relayPolls] at polls <;> try cases polls
      · simp [Server.Control.step, ended] at next
      · simp [Server.Control.step, ended] at next
      · simp only [Server.Control.step] at next
        split at next <;> cases next
        exact ended
  | false =>
      have handles := relay_handles polls next
      rw [ended] at handles
      exact handles.ended

theorem agentStep_writer {codec : Codec} {e : Agent.ControlEvent}
    (gone : pastLoop c.agent.point = true) (taken : c.agentStep codec e = some c') :
    pastLoop c'.agent.point = true ∧ c'.up = c.up := by
  obtain ⟨agent, next, rfl⟩ := Option.map_eq_some_iff.mp taken
  have outside : c.agent.point ≠ .select ∧ c.agent.point ≠ .pinging := by
    constructor
    · intro select
      rw [select] at gone
      cases gone
    · intro pinging
      rw [pinging] at gone
      cases gone
  have unbegun : e ≠ .ping := by
    intro ping
    rw [ping] at next
    simp [Agent.Control.step, outside.1] at next
  refine ⟨?_, by simp only [unbegun, if_false]⟩
  simp only
  cases e <;> simp only [Agent.Control.step, outside, false_and, if_false] at next <;>
    (repeat' split at next) <;> cases next <;> first | exact gone | rfl

theorem agentStep_reader {codec : Codec} {e : Agent.ControlEvent} (ended : c.agent.reader = .ended)
    (taken : c.agentStep codec e = some c') : c'.agent.reader = .ended ∧ c'.down = c.down := by
  obtain ⟨agent, next, rfl⟩ := Option.map_eq_some_iff.mp taken
  refine ⟨?_, rfl⟩
  cases polls : agentPolls e with
  | true =>
      cases e <;> simp only [agentPolls] at polls <;> try cases polls
      · simp [Agent.Control.step, ended] at next
      · simp [Agent.Control.step, ended] at next
      · simp only [Agent.Control.step] at next
        split at next <;> cases next
        exact ended
  | false =>
      have handles := agent_handles polls next
      rw [ended] at handles
      exact handles.ended

/-- The relay's loop and tasks do nothing, or one thing that polls nothing. -/
def RelayMoves (codec : Codec) (c c' : Peers S R) : Prop :=
  c' = c ∨ ∃ e, c.relayStep codec e = some c'

def AgentMoves (codec : Codec) (c c' : Peers S R) : Prop :=
  c' = c ∨ ∃ e, c.agentStep codec e = some c'

theorem RelayMoves.agent {codec : Codec} (moves : RelayMoves codec c c') :
    c'.agent = c.agent ∧ c'.up = c.up := by
  cases moves with
  | inl same =>
      rw [same]
      exact ⟨rfl, rfl⟩
  | inr event =>
      obtain ⟨e, taken⟩ := event
      obtain ⟨relay, -, rfl⟩ := Option.map_eq_some_iff.mp taken
      exact ⟨rfl, rfl⟩

theorem AgentMoves.relay {codec : Codec} (moves : AgentMoves codec c c') :
    c'.relay = c.relay ∧ c'.down = c.down := by
  cases moves with
  | inl same =>
      rw [same]
      exact ⟨rfl, rfl⟩
  | inr event =>
      obtain ⟨e, taken⟩ := event
      obtain ⟨agent, -, rfl⟩ := Option.map_eq_some_iff.mp taken
      exact ⟨rfl, rfl⟩

/-- The relay begins frames on its own half; it reads nothing of it. -/
theorem RelayMoves.unread {codec : Codec} (moves : RelayMoves codec c c') :
    c.down.Unread c'.down := by
  cases moves with
  | inl same =>
      rw [same]
      exact .refl _
  | inr event =>
      obtain ⟨e, taken⟩ := event
      obtain ⟨relay, -, rfl⟩ := Option.map_eq_some_iff.mp taken
      simp only
      split
      · exact Lane.beginFrame_unread ..
      · exact .refl _

theorem AgentMoves.unread {codec : Codec} (moves : AgentMoves codec c c') : c.up.Unread c'.up := by
  cases moves with
  | inl same =>
      rw [same]
      exact .refl _
  | inr event =>
      obtain ⟨e, taken⟩ := event
      obtain ⟨agent, -, rfl⟩ := Option.map_eq_some_iff.mp taken
      simp only
      split
      · exact Lane.beginFrame_unread ..
      · exact .refl _

theorem RelayMoves.writer {codec : Codec} (moves : RelayMoves codec c c')
    (ended : c.relay.writer = .ended) : c'.relay.writer = .ended ∧ c'.down = c.down := by
  cases moves with
  | inl same =>
      rw [same]
      exact ⟨ended, rfl⟩
  | inr event => exact relayStep_writer ended event.choose_spec

theorem RelayMoves.reader {codec : Codec} (moves : RelayMoves codec c c')
    (ended : c.relay.reader = .ended) : c'.relay.reader = .ended ∧ c'.up = c.up := by
  cases moves with
  | inl same =>
      rw [same]
      exact ⟨ended, rfl⟩
  | inr event => exact relayStep_reader ended event.choose_spec

theorem AgentMoves.writer {codec : Codec} (moves : AgentMoves codec c c')
    (gone : pastLoop c.agent.point = true) : pastLoop c'.agent.point = true ∧ c'.up = c.up := by
  cases moves with
  | inl same =>
      rw [same]
      exact ⟨gone, rfl⟩
  | inr event => exact agentStep_writer gone event.choose_spec

theorem AgentMoves.reader {codec : Codec} (moves : AgentMoves codec c c')
    (ended : c.agent.reader = .ended) : c'.agent.reader = .ended ∧ c'.down = c.down := by
  cases moves with
  | inl same =>
      rw [same]
      exact ⟨ended, rfl⟩
  | inr event => exact agentStep_reader ended event.choose_spec

/-- A step is a poll by a task that may make it, or none, and what the loops do then. -/
inductive Stepped (setup : Setup S R) (c c' : Peers S R) : Prop where
  | relay (moves : RelayMoves setup.codec c c')
  | relayWrite {answers : List (Poll Nat)} {innerFlush : Poll Unit} {down : Lane S R}
      {progress : WriteProgress} (task : c.relay.writer ≠ .ended)
      (polled : c.down.pollWriteFrame setup.cipher answers innerFlush = some (down, progress))
      (moves : RelayMoves setup.codec { c with down } c')
  | relayRead {answers : List Arrival} {up : Lane S R} {progress : ReadProgress}
      (task : c.relay.reader = .reading)
      (polled : c.up.pollReadFrame setup.cipher setup.codec answers = some (up, progress))
      (moves : RelayMoves setup.codec { c with up } c')
  | agent (moves : AgentMoves setup.codec c c')
  | agentWrite {answers : List (Poll Nat)} {innerFlush : Poll Unit} {up : Lane S R}
      {progress : WriteProgress} (point : c.agent.point = .pinging)
      (polled : c.up.pollWriteFrame setup.cipher answers innerFlush = some (up, progress))
      (moves : AgentMoves setup.codec { c with up } c')
  | agentRead {answers : List Arrival} {down : Lane S R} {progress : ReadProgress}
      (task : c.agent.reader = .reading)
      (polled : c.down.pollReadFrame setup.cipher setup.codec answers = some (down, progress))
      (moves : AgentMoves setup.codec { c with down } c')

theorem step_stepped {act : Act} (taken : c.step setup act = some c') : Stepped setup c c' := by
  cases act with
  | relay e =>
      simp only [Peers.step] at taken
      split at taken
      · cases taken
      · exact .relay (.inr ⟨e, taken⟩)
  | agent e =>
      simp only [Peers.step] at taken
      split at taken
      · cases taken
      · exact .agent (.inr ⟨e, taken⟩)
  | relayWrite answers innerFlush =>
      simp only [Peers.step] at taken
      split at taken
      · rename_i m down task polled
        cases taken
        exact .relayWrite (by simp [task]) polled (.inl rfl)
      · rename_i m down task polled
        exact .relayWrite (by simp [task]) polled (.inr ⟨_, taken⟩)
      · rename_i m down task polled
        exact .relayWrite (by simp [task]) polled (.inr ⟨_, taken⟩)
      · cases taken
  | relayRead answers =>
      simp only [Peers.step] at taken
      split at taken
      · rename_i up task polled
        cases taken
        exact .relayRead task polled (.inl rfl)
      · rename_i up m task polled
        exact .relayRead task polled (.inr ⟨_, taken⟩)
      · rename_i up task polled
        exact .relayRead task polled (.inr ⟨_, taken⟩)
      · cases taken
  | agentWrite answers innerFlush =>
      simp only [Peers.step] at taken
      split at taken
      · rename_i up point polled
        cases taken
        exact .agentWrite point polled (.inl rfl)
      · rename_i up point polled
        exact .agentWrite point polled (.inr ⟨_, taken⟩)
      · rename_i up point polled
        exact .agentWrite point polled (.inr ⟨_, taken⟩)
      · cases taken
  | agentRead answers =>
      simp only [Peers.step] at taken
      split at taken
      · rename_i down task polled
        cases taken
        exact .agentRead task polled (.inl rfl)
      · rename_i down m task polled
        exact .agentRead task polled (.inr ⟨_, taken⟩)
      · rename_i down task polled
        exact .agentRead task polled (.inr ⟨_, taken⟩)
      · cases taken

/-- Once the relay's writer task has ended, nobody writes to its half. -/
theorem step_relayWriter {act : Act} (ended : c.relay.writer = .ended)
    (taken : c.step setup act = some c') :
    c'.relay.writer = .ended ∧ c.down.Unwritten c'.down := by
  cases step_stepped taken with
  | relay moves =>
      obtain ⟨still, same⟩ := moves.writer ended
      exact ⟨still, by rw [same]; exact .refl _⟩
  | relayWrite task polled moves => exact absurd ended task
  | relayRead task polled moves =>
      obtain ⟨still, same⟩ := moves.writer ended
      exact ⟨still, by rw [same]; exact .refl _⟩
  | agent moves =>
      obtain ⟨relay, same⟩ := moves.relay
      exact ⟨by rw [relay]; exact ended, by rw [same]; exact .refl _⟩
  | agentWrite point polled moves =>
      obtain ⟨relay, same⟩ := moves.relay
      exact ⟨by rw [relay]; exact ended, by rw [same]; exact .refl _⟩
  | agentRead task polled moves =>
      obtain ⟨relay, same⟩ := moves.relay
      exact ⟨by rw [relay]; exact ended, by rw [same]; exact Lane.pollReadFrame_unwritten polled⟩

/-- Once the agent has left its loop, nobody writes to its half. -/
theorem step_agentWriter {act : Act} (gone : pastLoop c.agent.point = true)
    (taken : c.step setup act = some c') :
    pastLoop c'.agent.point = true ∧ c.up.Unwritten c'.up := by
  cases step_stepped taken with
  | relay moves =>
      obtain ⟨agent, same⟩ := moves.agent
      exact ⟨by rw [agent]; exact gone, by rw [same]; exact .refl _⟩
  | relayWrite task polled moves =>
      obtain ⟨agent, same⟩ := moves.agent
      exact ⟨by rw [agent]; exact gone, by rw [same]; exact .refl _⟩
  | relayRead task polled moves =>
      obtain ⟨agent, same⟩ := moves.agent
      exact ⟨by rw [agent]; exact gone, by rw [same]; exact Lane.pollReadFrame_unwritten polled⟩
  | agent moves =>
      obtain ⟨still, same⟩ := moves.writer gone
      exact ⟨still, by rw [same]; exact .refl _⟩
  | agentWrite point polled moves =>
      rw [point] at gone
      cases gone
  | agentRead task polled moves =>
      obtain ⟨still, same⟩ := moves.writer gone
      exact ⟨still, by rw [same]; exact .refl _⟩

/-- Once the relay's reader task has ended, nobody reads from its half. -/
theorem step_relayReader {act : Act} (ended : c.relay.reader = .ended)
    (taken : c.step setup act = some c') : c'.relay.reader = .ended ∧ c.up.Unread c'.up := by
  cases step_stepped taken with
  | relay moves =>
      obtain ⟨still, same⟩ := moves.reader ended
      exact ⟨still, by rw [same]; exact .refl _⟩
  | relayWrite task polled moves =>
      obtain ⟨still, same⟩ := moves.reader ended
      exact ⟨still, by rw [same]; exact .refl _⟩
  | relayRead task polled moves =>
      rw [task] at ended
      cases ended
  | agent moves => exact ⟨by rw [moves.relay.1]; exact ended, moves.unread⟩
  | agentWrite point polled moves =>
      refine ⟨by rw [moves.relay.1]; exact ended, ?_⟩
      exact (Lane.pollWriteFrame_unread polled).trans moves.unread
  | agentRead task polled moves => exact ⟨by rw [moves.relay.1]; exact ended, moves.unread⟩

/-- Once the agent's reader task has ended, nobody reads from its half. -/
theorem step_agentReader {act : Act} (ended : c.agent.reader = .ended)
    (taken : c.step setup act = some c') : c'.agent.reader = .ended ∧ c.down.Unread c'.down := by
  cases step_stepped taken with
  | relay moves => exact ⟨by rw [moves.agent.1]; exact ended, moves.unread⟩
  | relayWrite task polled moves =>
      refine ⟨by rw [moves.agent.1]; exact ended, ?_⟩
      exact (Lane.pollWriteFrame_unread polled).trans moves.unread
  | relayRead task polled moves => exact ⟨by rw [moves.agent.1]; exact ended, moves.unread⟩
  | agent moves =>
      obtain ⟨still, same⟩ := moves.reader ended
      exact ⟨still, by rw [same]; exact .refl _⟩
  | agentWrite point polled moves =>
      obtain ⟨still, same⟩ := moves.reader ended
      exact ⟨still, by rw [same]; exact .refl _⟩
  | agentRead task polled moves =>
      rw [task] at ended
      cases ended

/-! ## The result -/

/-- The relay began a frame that no `write_frame` goes on with. -/
def RelayCut (c : Peers S R) : Prop :=
  c.down.writing.isSome = true ∧ ∀ m, c.relay.writer ≠ .writing m

def AgentCut (c : Peers S R) : Prop := c.up.writing.isSome = true ∧ c.agent.point ≠ .pinging

/-- The relay consumed bytes of a frame that no `read_frame` goes on with. -/
def RelayDropped (c : Peers S R) : Prop := c.up.reader.held ≠ [] ∧ c.relay.reader ≠ .reading

def AgentDropped (c : Peers S R) : Prop := c.down.reader.held ≠ [] ∧ c.agent.reader ≠ .reading

/-- A frame that was cut is one whose task has ended. -/
theorem Sound.relayCut (sound : Sound setup c) (cut : c.RelayCut) : c.relay.writer = .ended := by
  obtain ⟨busy, abandoned⟩ := cut
  cases task : c.relay.writer with
  | ended => rfl
  | writing m => exact absurd task (abandoned m)
  | idle =>
      rw [sound.hands.idle task] at busy
      cases busy

theorem Sound.agentCut (sound : Sound setup c) (cut : c.AgentCut) : pastLoop c.agent.point = true := by
  obtain ⟨busy, abandoned⟩ := cut
  cases point : c.agent.point with
  | select =>
      rw [sound.pings.idle point] at busy
      cases busy
  | pinging => exact absurd point abandoned
  | joinReader => rfl
  | left => rfl
  | dropped => rfl

/-- What either end may rely on, in a state and from there on. -/
structure Integrity (setup : Setup S R) (c : Peers S R) : Prop where
  /-- the agent's loop acts on what the relay's loop handed to its writer task -/
  down : c.agentActed <+: c.handed
  /-- each request is handed on at most once, in the order of the queue -/
  requests : opens c.handed <+: c.dequeued
  pongs : c.handed.count .pong ≤ c.relayActed.count .ping
  only : ∀ m ∈ c.handed, Server.Control.Outgoing m
  /-- the relay's loop acts on `Ping`s the agent wrote, whose bytes `poll_write` has -/
  up : c.relayActed <+: c.up.begun
  pings : ∀ m ∈ c.up.begun, m = .ping
  passed : frames (c.relayActed.map setup.codec.encode) <+: c.up.link.reported ++ c.up.link.chunk
  /-- behind a frame that was cut nothing is written -/
  relayCut : c.RelayCut → ∀ more c', exec (step setup) c more = some c' → c.down.Unwritten c'.down
  agentCut : c.AgentCut → ∀ more c', exec (step setup) c more = some c' → c.up.Unwritten c'.up
  /-- behind a read that was dropped nothing is read -/
  relayDropped : c.RelayDropped → ∀ more c', exec (step setup) c more = some c' → c.up.Unread c'.up
  agentDropped : c.AgentDropped → ∀ more c', exec (step setup) c more = some c' →
    c.down.Unread c'.down

/-- **Control messages arrive whole, in order and once**, for every interleaving of the
two loops and their tasks and every fragmentation of the bytes, and nothing follows a
frame that was cut. -/
theorem integrity (keyed : Keyed setup) {acts : List Act}
    (run : exec (step setup) (start setup) acts = some c)
    (reads : ∀ m ∈ c.handed ++ c.up.begun,
      setup.codec.decode (setup.codec.encode m) = some m) : Integrity setup c := by
  have sound : Sound setup c :=
    Reached.invariant ⟨acts, run⟩ (sound_start setup) fun _ _ _ holds taken => holds.step keyed taken
  have begun := sound.hands.begun
  obtain ⟨down, -⟩ := sound.down.received fun m inside =>
    reads m (List.mem_append_left _ (begun.subset inside))
  obtain ⟨up, encoded⟩ := sound.up.received fun m inside => reads m (List.mem_append_right _ inside)
  have agentHeard : c.agentActed <+: c.down.received setup.codec := by
    apply List.IsPrefix.trans ?_ sound.agentHears.ordered
    rw [List.append_assoc]
    exact List.prefix_append ..
  have relayHeard : c.relayActed <+: c.up.received setup.codec := by
    apply List.IsPrefix.trans ?_ sound.relayHears.ordered
    rw [List.append_assoc]
    exact List.prefix_append ..
  have handed : c.handed <+: c.handed ++ forwarding c.relay.point := List.prefix_append ..
  refine ⟨(agentHeard.trans down).trans begun, ?_, ?_, ?_, relayHeard.trans up, sound.pings.only, ?_,
    ?_, ?_, ?_, ?_⟩
  · exact (handed.filterMap _).trans sound.answers.ordered
  · exact (handed.sublist.count_le .pong).trans sound.answers.pongs
  · intro m inside
    exact sound.answers.only m (handed.subset inside)
  · obtain ⟨later, split⟩ := relayHeard
    apply List.IsPrefix.trans ?_ sound.up.passed
    rw [← encoded, ← split, List.map_append, frames_append]
    exact List.prefix_append ..
  · intro cut more c' after
    exact exec_related (fun c c' => c.down.Unwritten c'.down) (fun _ => .refl _)
      (fun _ _ _ first second => first.trans second)
      (fun _ _ _ ended taken => step_relayWriter ended taken) after (sound.relayCut cut)
  · intro cut more c' after
    exact exec_related (fun c c' => c.up.Unwritten c'.up) (fun _ => .refl _)
      (fun _ _ _ first second => first.trans second)
      (fun _ _ _ gone taken => step_agentWriter gone taken) after (sound.agentCut cut)
  · intro dropped more c' after
    exact exec_related (fun c c' => c.up.Unread c'.up) (fun _ => .refl _)
      (fun _ _ _ first second => first.trans second)
      (fun _ _ _ ended taken => step_relayReader ended taken) after
      (sound.relayHears.dropped dropped.1 dropped.2)
  · intro dropped more c' after
    exact exec_related (fun c c' => c.down.Unread c'.down) (fun _ => .refl _)
      (fun _ _ _ first second => first.trans second)
      (fun _ _ _ ended taken => step_agentReader ended taken) after
      (sound.agentHears.dropped dropped.1 dropped.2)

end Peers

/-! ## A connection to run -/

/-- The JSON text of the messages of the two loops; the session id needs no escapes. -/
def controlJson : Message → String
  | .openSession id => "\x7b\"type\":\"open\",\"session_id\":\"" ++ id ++ "\"\x7d"
  | .ping => "\x7b\"type\":\"ping\"\x7d"
  | .pong => "\x7b\"type\":\"pong\"\x7d"
  | _ => ""

def controlCodec : Codec where
  encode m := utf8 (controlJson m)
  decode payload := [.openSession "s", .ping, .pong].find? fun m => utf8 (controlJson m) = payload

def controlSetup : Setup Nat Nat :=
  { cipher := counterCipher, codec := controlCodec, downKeys := (0, 0), upKeys := (0, 0),
    relayHeartbeat := true, agentHeartbeat := true }

namespace Peers

/-- The inner stream takes all that a poll has for it. -/
def takesPoll (l : Lane Nat Nat) : List (Poll Nat) :=
  match l.writing with
  | some w => [.done (4 + w.buffer.length + noiseTagSize)]
  | none => []

def relayWrites : Peers Nat Nat → Act := fun c => .relayWrite (takesPoll c.down) (.done ())

def agentWrites : Peers Nat Nat → Act := fun c => .agentWrite (takesPoll c.up) (.done ())

def relayReads : Peers Nat Nat → Act := fun c => .relayRead [.ready c.up.link.wire]

def agentReads : Peers Nat Nat → Act := fun c => .agentRead [.ready c.down.link.wire]

/-- A session completes between two pieces of the `Open`; the write of the `Pong` behind it
is cut in its payload. -/
def cutChoices : List (Peers Nat Nat → Act) :=
  [fun _ => .agent .ping, agentWrites, agentWrites, agentWrites, relayReads, relayReads,
   fun _ => .relay .deliver, fun _ => .relay (.openRequest "s"), fun _ => .relay .forward,
   fun _ => .relay .frame, fun _ => .relay .forward, fun _ => .relay .nextOutgoing, relayWrites,
   relayWrites, fun c => .agentRead [.ready (c.down.link.wire.take 30), .pending []],
   fun _ => .agent .sessionDone, relayWrites, agentReads, fun _ => .agent .deliver,
   fun _ => .agent .frame, fun _ => .relay .nextOutgoing, relayWrites,
   fun _ => .relayWrite [.done 9, .pending] .pending, agentReads, fun _ => .relay .writeError]

def cutActs : List Act := drive (step controlSetup) (start controlSetup) cutChoices

theorem cutActs_reads :
    (exec (step controlSetup) (start controlSetup) cutActs).map (fun c =>
      ((c.agentActed, c.handed, c.relayActed, c.up.begun), c.down.writing.isSome, c.relay.writer)) =
      some (([.openSession "s"], [.openSession "s", .pong], [.ping], [.ping]), true, .ended) := by
  decide +kernel

theorem controlSetup_keyed : Keyed controlSetup :=
  ⟨counterCipher_inverts 0, counterCipher_inverts 0⟩

theorem integrity_cut :
    ∃ c, exec (step controlSetup) (start controlSetup) cutActs = some c ∧
      Integrity controlSetup c ∧ c.RelayCut ∧ c.agentActed = [.openSession "s"] ∧
      c.relayActed = [.ping] := by
  obtain ⟨c, run, reads⟩ := Option.map_eq_some_iff.mp cutActs_reads
  obtain ⟨messages, busy, ended⟩ := by simpa only [Prod.mk.injEq] using reads
  obtain ⟨agentActed, handed, relayActed, begun⟩ := messages
  have back : ∀ m ∈ c.handed ++ c.up.begun,
      controlSetup.codec.decode (controlSetup.codec.encode m) = some m := by
    rw [handed, begun]
    decide +kernel
  refine ⟨c, run, integrity controlSetup_keyed run back, ⟨busy, ?_⟩, agentActed, relayActed⟩
  intro m writing
  rw [ended] at writing
  cases writing

end Peers

end RustSsh.Channel
