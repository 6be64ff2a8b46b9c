/-
# Server.Heartbeat -- what the relay does with the heartbeat

`handle_connection` answers a `Hello` with the heartbeat if the `Hello` listed it, and the
control handler of an agent watches for dead peers only then; a `Pong` is written for a
`Ping` and for nothing else.  `Knows` says what the place of a handler knows of the first
frame of its connection, `Negotiated` what holds of everything written to the connection
so far, and `relay_negotiated` that both hold along every run.
-/
import RustSsh.Server.Authority

namespace RustSsh.Server

open RustSsh.Theory RustSsh.Protocol

set_option autoImplicit false

/-- The features of a `Hello` include the heartbeat. -/
def listed (features : List String) : Bool := features.any (· == heartbeatFeature)

/-- The first frame of the connection is a `Hello` with this role and these features. -/
def Greeted (acts : List Act) (c : ConnId) (role : Role) (features : List String) : Prop :=
  ∃ version token deviceId rest,
    received c acts = .hello version role token deviceId features :: rest

/-- Neither a heartbeat nor part of its negotiation. -/
def Plain : Message → Prop
  | .helloOk _ => False
  | .ping => False
  | .pong => False
  | _ => True

namespace Control

/-- The frames that were read and the loop has not looked at. -/
def unread (c : Control) : List Message :=
  c.frames ++ (match c.reader with | .delivering m => [m] | _ => [])

/-- `Pong`s on their way and `Ping`s that may still be answered. -/
def owed (c : Control) : Nat := c.toWrite.count .pong + c.unread.count .ping

/-- The frame the event reads. -/
def reads : ControlEvent → Option Message
  | .readFrame m => some m
  | _ => none

/-- The frame the event has written. -/
def writes : ControlEvent → Option Message
  | .wrote m => some m
  | _ => none

/-- A `Pong` comes on for a `Ping` that goes. -/
theorem owed_step {c c' : Control} {e : ControlEvent} (taken : c.step e = some c') :
    c'.owed + (writes e).toList.count .pong ≤ c.owed + (reads e).toList.count .ping := by
  cases e with
  | readFrame m =>
      simp only [step] at taken
      split at taken <;> cases taken
      rename_i reading
      simp [owed, unread, toWrite, reads, writes, reading, List.count_append]
      omega
  | wrote m =>
      have split := wrote_toWrite taken
      simp only [step] at taken
      split at taken <;> cases taken
      simp only [owed, unread, split, reads, writes, Option.toList_some, Option.toList_none,
        List.count_nil, List.count_cons, List.count_append]
      omega
  | frame =>
      simp only [step] at taken
      split at taken
      · rename_i here
        split at taken
        · rename_i rest waiting
          cases taken
          simp [owed, unread, toWrite, reads, writes, waiting, here, List.count_append]
          omega
        · rename_i m rest _ waiting
          cases taken
          simp [owed, unread, toWrite, reads, writes, leave, waiting, here, List.count_append,
            List.count_cons]
        · split at taken <;> cases taken
          simp [owed, unread, toWrite, reads, writes, leave, here]
      · cases taken
  | forward =>
      simp only [step] at taken
      split at taken
      · rename_i m here
        split at taken
        · cases taken
          simp [owed, unread, toWrite, reads, writes, leave, here, List.count_append]
        · split at taken <;> cases taken
          simp [owed, unread, toWrite, reads, writes, here, List.count_append]
      · cases taken
  | readError | deliver | nextOutgoing | writeError | shutdown | openRequest sessionId
    | readerDone | writerDone | heartbeatDead | joinReader | joinWriter =>
      simp only [step] at taken
      (repeat' split at taken) <;> cases taken <;>
        simp_all [owed, unread, toWrite, reads, writes, leave, List.count_append, List.count_cons]

theorem heartbeat_step {c c' : Control} {e : ControlEvent} (taken : c.step e = some c') :
    c'.heartbeat = c.heartbeat ∧ (e = .heartbeatDead → c.heartbeat = true) := by
  cases e <;> simp only [step] at taken <;> (repeat' split at taken) <;> cases taken <;>
    simp_all [leave]

/-- In the loop the death branch is there exactly with the heartbeat. -/
theorem heartbeatDead_isSome {c : Control} (here : c.point = .select) :
    (c.step .heartbeatDead).isSome = c.heartbeat := by
  cases on : c.heartbeat <;> simp [step, here, on]

end Control

/-! ## What holds of everything written -/

/-- The heartbeat was in every `HelloOk` exactly if it was in the `Hello`; no `Ping` was
written, and `Pong`s only to agents, no more than they sent `Ping`s; the death branch was
taken only where the `Hello` listed the heartbeat. -/
structure Negotiated (acts : List Act) (c : ConnId) : Prop where
  helloOk : ∀ features', .helloOk features' ∈ sent c acts →
    ∃ role features, Greeted acts c role features ∧ .helloOk features' = helloOkFor (listed features)
  silent : .ping ∉ sent c acts
  agents : .pong ∈ sent c acts → ∃ features, Greeted acts c .agent features
  answered : (sent c acts).count .pong ≤ (received c acts).count .ping
  dead : Act.task c (.control .heartbeatDead) ∈ acts →
    ∃ features, Greeted acts c .agent features ∧ listed features = true

/-- What the place of a handler knows of the connection's `Hello`. -/
def Knows (acts : List Act) (c : ConnId) : Phase → Prop
  | .unborn => received c acts = []
  | .handshake => received c acts = []
  | .hello => received c acts = []
  | .authenticate role _ _ features => Greeted acts c role features
  | .helloOk role _ heartbeat =>
      ∃ features, Greeted acts c role features ∧ heartbeat = listed features
  | .agent _ heartbeat point =>
      (∃ features, Greeted acts c .agent features ∧ heartbeat = listed features) ∧
        match point with
        | .running control =>
            control.heartbeat = heartbeat ∧ (∀ m ∈ control.toWrite, Control.Outgoing m) ∧
              (sent c acts).count .pong + control.owed ≤ (received c acts).count .ping
        | _ => True
  | .session _ (.reply m) => Plain m
  | .controller (.reply m) => Plain m
  | _ => True

section Runs

variable {cfg : Settings} {auth : AuthSnapshot} {acts : List Act} {s s' : Relay} {a : Act}
  {c : ConnId}

theorem sent_snoc (c : ConnId) (acts : List Act) (a : Act) :
    sent c (acts ++ [a]) = sent c acts ++ (sentFrame c a).toList := by
  simp only [sent, List.filterMap_append]
  cases found : sentFrame c a <;> simp [found]

theorem sentFrame_other {c c' : ConnId} (other : c ≠ c') (e : Event) :
    sentFrame c (.task c' e) = none := by
  unfold sentFrame
  split <;> simp_all [eq_comm]

theorem Greeted.more {role : Role} {features : List String} (greeted : Greeted acts c role features)
    (more : List Act) : Greeted (acts ++ more) c role features := by
  obtain ⟨version, token, deviceId, rest, first⟩ := greeted
  refine ⟨version, token, deviceId, rest ++ received c more, ?_⟩
  rw [← List.cons_append, ← first]
  exact List.filterMap_append

/-- A connection has one first frame. -/
theorem Greeted.unique {role role' : Role} {features features' : List String}
    (one : Greeted acts c role features) (other : Greeted acts c role' features') :
    role = role' ∧ features = features' := by
  obtain ⟨version, token, deviceId, rest, first⟩ := one
  obtain ⟨version', token', deviceId', rest', first'⟩ := other
  rw [first] at first'
  cases first'
  exact ⟨rfl, rfl⟩

theorem negotiated_start (c : ConnId) : Negotiated [] c := by
  constructor <;> simp [sent, received]

/-- What has to be shown of one more action. -/
theorem Negotiated.snoc (before : Negotiated acts c)
    (helloOk : ∀ features', sentFrame c a = some (.helloOk features') →
      ∃ role features, Greeted acts c role features ∧
        .helloOk features' = helloOkFor (listed features))
    (silent : sentFrame c a ≠ some .ping)
    (pong : sentFrame c a = some .pong →
      (∃ features, Greeted acts c .agent features) ∧
        (sent c acts).count .pong < (received c acts).count .ping)
    (dead : a = .task c (.control .heartbeatDead) →
      ∃ features, Greeted acts c .agent features ∧ listed features = true) :
    Negotiated (acts ++ [a]) c := by
  have frames := sent_snoc c acts a
  refine ⟨?_, ?_, ?_, ?_, ?_⟩
  · intro features' inside
    rw [frames, List.mem_append, Option.mem_toList] at inside
    cases inside with
    | inl old =>
        obtain ⟨role, features, greeted, same⟩ := before.helloOk features' old
        exact ⟨role, features, greeted.more [a], same⟩
    | inr new =>
        obtain ⟨role, features, greeted, same⟩ := helloOk features' new
        exact ⟨role, features, greeted.more [a], same⟩
  · intro inside
    rw [frames, List.mem_append, Option.mem_toList] at inside
    cases inside with
    | inl old => exact before.silent old
    | inr new => exact silent new
  · intro inside
    rw [frames, List.mem_append, Option.mem_toList] at inside
    have known : ∃ features, Greeted acts c .agent features := by
      cases inside with
      | inl old => exact before.agents old
      | inr new => exact (pong new).1
    obtain ⟨features, greeted⟩ := known
    exact ⟨features, greeted.more [a]⟩
  · have grows : (received c acts).count .ping ≤ (received c (acts ++ [a])).count .ping := by
      rw [received_snoc, List.count_append]
      omega
    by_cases writes : sentFrame c a = some .pong
    · have room := (pong writes).2
      rw [frames, writes]
      simp only [Option.toList_some, List.count_append, List.count_singleton_self]
      omega
    · have same : ((sentFrame c a).toList).count .pong = 0 := by
        refine List.count_eq_zero.mpr ?_
        rw [Option.mem_toList]
        exact writes
      have old := before.answered
      rw [frames, List.count_append, same]
      omega
  · intro inside
    have known : ∃ features, Greeted acts c .agent features ∧ listed features = true := by
      cases List.mem_append.mp inside with
      | inl old => exact before.dead old
      | inr new => exact dead (List.mem_singleton.mp new).symm
    obtain ⟨features, greeted, on⟩ := known
    exact ⟨features, greeted.more [a], on⟩

/-- An action that writes a plain frame or none. -/
theorem Negotiated.plain (before : Negotiated acts c)
    (plain : ∀ m, sentFrame c a = some m → Plain m)
    (alive : a ≠ .task c (.control .heartbeatDead)) : Negotiated (acts ++ [a]) c := by
  apply before.snoc
  · intro features' writes
    exact absurd (plain _ writes) id
  · intro writes
    exact absurd (plain _ writes) id
  · intro writes
    exact absurd (plain _ writes) id
  · intro same
    exact absurd same alive

theorem Knows.quiet (read : receivedFrame c a = none) (written : sentFrame c a = none)
    {phase : Phase} (knows : Knows acts c phase) : Knows (acts ++ [a]) c phase := by
  have reads : received c (acts ++ [a]) = received c acts := by
    rw [received_snoc, read]
    simp
  have writes : sent c (acts ++ [a]) = sent c acts := by
    rw [sent_snoc, written]
    simp
  unfold Knows Greeted at *
  rw [reads, writes]
  exact knows

theorem knows_move {e : Event} {phase next : Phase} (moves : Moves s c phase e next)
    (knows : Knows acts c phase) : Knows (acts ++ [.task c e]) c next := by
  cases moves with
  | handshake =>
      have silent : received c acts = [] := knows
      simp [Knows, received_snoc, silent, receivedFrame]
  | hello role deviceId token features =>
      have silent : received c acts = [] := knows
      refine ⟨protocolVersion, token, deviceId, [], ?_⟩
      simp [received_snoc, silent, receivedFrame]
  | authenticate ok =>
      have greeted : Greeted acts c _ _ := knows
      exact ⟨_, greeted.more _, rfl⟩
  | agent valid =>
      obtain ⟨features, greeted, same⟩ := knows
      exact ⟨⟨features, greeted.more _, same⟩, trivial⟩
  | _ => trivial

/-- What a handler writes itself: the `HelloOk` of its connection or a plain frame. -/
theorem Rule.sends_plain {m : Message} (rule : Rule s (.task c (.send m)) s')
    (knows : Knows acts c (s.task c).phase) :
    (∃ role features, Greeted acts c role features ∧ m = helloOkFor (listed features)) ∨ Plain m := by
  have helloOk {role : Role} {deviceId : Option String} {heartbeat : Bool}
      (knows : Knows acts c (.helloOk role deviceId heartbeat)) :
      ∃ role features, Greeted acts c role features ∧
        helloOkFor heartbeat = helloOkFor (listed features) := by
    obtain ⟨features, greeted, same⟩ := knows
    exact ⟨role, features, greeted, by rw [same]⟩
  cases rule with
  | move moves =>
      generalize (s.task c).phase = phase at moves knows
      cases moves with
      | agent | session | controller => exact .inl (helloOk knows)
      | accepted | confirm => exact .inr trivial
      | notReady _ _ _ _ incoming => cases incoming
  | finish finishes =>
      generalize (s.task c).phase = phase at finishes knows
      cases finishes with
      | helloOk => exact .inl (helloOk knows)
      | sessionReplied | replied => exact .inr knows
      | hello incoming | attach _ incoming | request incoming => cases incoming

theorem negotiated_rule {e : Event} (rule : Rule s (.task c e) s') (before : Negotiated acts c)
    (knows : Knows acts c (s.task c).phase) : Negotiated (acts ++ [.task c e]) c := by
  by_cases sends : ∃ m, e = .send m
  · obtain ⟨m, rfl⟩ := sends
    have writes : sentFrame c (.task c (.send m)) = some m := by simp [sentFrame]
    cases rule.sends_plain knows with
    | inl helloOk =>
        obtain ⟨role, features, greeted, rfl⟩ := helloOk
        refine before.snoc ?_ ?_ ?_ (by simp)
        · intro features' same
          rw [writes] at same
          exact ⟨role, features, greeted, (Option.some.inj same).symm⟩
        · rw [writes]
          simp [helloOkFor]
        · rw [writes]
          simp [helloOkFor]
    | inr plain =>
        refine before.plain ?_ (by simp)
        intro m' same
        rw [writes] at same
        cases same
        exact plain
  by_cases controls : ∃ event, e = .control event
  · obtain ⟨event, rfl⟩ := controls
    obtain ⟨d, heartbeat, control, control', here, stepped⟩ := rule.controls
    rw [here] at knows
    obtain ⟨⟨features, greeted, same⟩, on, outgoing, owed⟩ := knows
    have writes : sentFrame c (.task c (.control event)) = Control.writes event := by
      cases event <;> simp [sentFrame, Control.writes]
    have written : ∀ m, sentFrame c (.task c (.control event)) = some m → event = .wrote m := by
      intro m same
      rw [writes] at same
      cases event <;> cases same
      rfl
    have allowed : ∀ m, sentFrame c (.task c (.control event)) = some m → Control.Outgoing m := by
      intro m same
      cases written m same
      exact outgoing m (by rw [Control.wrote_toWrite stepped]; exact List.mem_cons_self)
    apply before.snoc
    · intro features' same
      cases allowed _ same
    · intro same
      cases allowed _ same
    · intro same
      cases written _ same
      have first := Control.wrote_toWrite stepped
      refine ⟨⟨features, greeted⟩, ?_⟩
      rw [Control.owed, first, List.count_cons_self] at owed
      omega
    · intro dead
      cases dead
      refine ⟨features, greeted, ?_⟩
      rw [← same, ← on]
      exact (Control.heartbeat_step stepped).2 rfl
  · refine before.plain ?_ ?_
    · intro m same
      unfold sentFrame at same
      split at same
      · rename_i given
        cases given
        exact absurd ⟨_, rfl⟩ sends
      · rename_i given
        cases given
        exact absurd ⟨_, rfl⟩ controls
      · cases same
    · intro same
      cases same
      exact controls ⟨_, rfl⟩

theorem knows_rule {e : Event} (rule : Rule s (.task c e) s') (before : Negotiated acts c)
    (knows : Knows acts c (s.task c).phase) :
    Knows (acts ++ [.task c e]) c (s'.task c).phase := by
  have agent {d : DeviceId} {heartbeat : Bool} {point : AgentPoint}
      (knows : Knows acts c (.agent d heartbeat point)) :
      ∃ features, Greeted (acts ++ [.task c e]) c .agent features ∧ heartbeat = listed features := by
    obtain ⟨features, greeted, same⟩ := knows.1
    exact ⟨features, greeted.more _, same⟩
  cases rule with
  | move moves =>
      simp only [Relay.goto_task, Function.update_self]
      exact knows_move moves knows
  | finish | handOver | agentReturn => simp [Knows]
  | insertFresh here | stopPrevious here =>
      rw [here] at knows
      simp only [Relay.spawnControl_task, Function.update_self]
      refine ⟨agent knows, rfl, by simp [Control.start, Control.toWrite], ?_⟩
      rw [sent_snoc, received_snoc]
      simpa [Control.start, Control.owed, Control.toWrite, Control.unread, sentFrame,
        receivedFrame] using before.answered
  | insertOver here | failPending here | failRequest here | unregister here =>
      rw [here] at knows
      simp only [Relay.goto_task, Function.update_self]
      exact ⟨agent knows, trivial⟩
  | @control c d heartbeat control control' e here allowed stepped =>
      rw [here] at knows
      have greeted := agent knows
      obtain ⟨-, on, outgoing, owed⟩ := knows
      simp only [Relay.goto_task, Function.update_self]
      split
      · exact ⟨greeted, trivial⟩
      · refine ⟨greeted, ?_, ?_, ?_⟩
        · rw [(Control.heartbeat_step stepped).1]
          exact on
        · intro m member
          cases Control.toWrite_step stepped m member with
          | inl earlier => exact outgoing m earlier
          | inr new => exact new
        · have step := Control.owed_step stepped
          have writes : sentFrame c (.task c (.control e)) = Control.writes e := by
            cases e <;> simp [sentFrame, Control.writes]
          have reads : receivedFrame c (.task c (.control e)) = Control.reads e := by
            cases e <;> simp [receivedFrame, Control.reads]
          rw [sent_snoc, received_snoc, List.count_append, List.count_append, writes, reads]
          omega
  | take | refuse | enqueue | enqueueClosed | receive | receiveClosed | expireEnqueue | expireAwait
    | cancel => simp [Knows]
  | receiveRefusal | refuseCancelled | cancelExpired => simp [Knows, Plain, noResponse]
  | register here ok =>
      obtain ⟨rfl, -, -⟩ := Relay.registerPending_eq ok
      simp [Knows]

theorem run_negotiated (run : Run cfg auth acts s) (c : ConnId) :
    Negotiated acts c ∧ Knows acts c (s.task c).phase := by
  refine run_each (P := fun acts c phase => Negotiated acts c ∧ Knows acts c phase)
    (fun c => ⟨negotiated_start c, rfl⟩) ?_ (fun _ _ holds => holds) ?_ run c
  · intro acts c a phase other holds
    obtain ⟨before, knows⟩ := holds
    have silent : receivedFrame c a = none ∧ sentFrame c a = none := by
      cases a with
      | accept | reload => exact ⟨rfl, rfl⟩
      | task c' e =>
          have apart : c ≠ c' := fun same => other e (by rw [same])
          exact ⟨receivedFrame_other apart e, sentFrame_other apart e⟩
    refine ⟨before.plain ?_ (other _), knows.quiet silent.1 silent.2⟩
    intro m writes
    rw [silent.2] at writes
    cases writes
  · intro acts s c e s' _ rule holds
    exact ⟨negotiated_rule rule holds.1 holds.2, knows_rule rule holds.1 holds.2⟩

end Runs

end RustSsh.Server
