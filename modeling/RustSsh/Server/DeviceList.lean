/-
# Server.DeviceList -- the reply to a ListRequest

Nothing in `handle_controller` bounds the list.  It fits because a registered id is the id of
a handler that holds a permit (`registry_bounded`), and because such an id is short and needs
no escapes (`registered_valid`, `jsonSize_valid`).  A list that was built fits for as long as
it waits to be written, whatever the registry has become (`device_list_fits`).
-/
import RustSsh.Server.Authority
import RustSsh.Server.Quota
import RustSsh.Protocol.Serde
import RustSsh.Theory.SortBy

namespace RustSsh.Server

open RustSsh.Theory RustSsh.Protocol

set_option autoImplicit false

/-! ## Sizes -/

theorem escape_allowed {c : Char} (allowed : DeviceId.allowedChar c = true) :
    Json.escape c = [c] := by
  have other (d : Char) (bad : DeviceId.allowedChar d = false) : c ≠ d := by
    rintro rfl
    rw [allowed] at bad
    cases bad
  have visible : ¬ c.toNat < 32 := by
    have bounds := DeviceId.allowedChar_iff.mp allowed
    omega
  simp [Json.escape, other '"' (by decide), other '\\' (by decide), other '\x08' (by decide),
    other '\t' (by decide), other '\n' (by decide), other '\x0c' (by decide),
    other '\r' (by decide), visible]

/-- A device id is at most `MAX_LENGTH` bytes of JSON. -/
theorem jsonSize_valid {d : DeviceId} (valid : DeviceId.isValid d = true) :
    jsonSize d ≤ DeviceId.maxLength := by
  rw [← String.ofList_toList (s := d)] at valid
  obtain ⟨-, short, allowed⟩ := DeviceId.isValid_ofList.mp valid
  have plain : ∀ t : Text, (∀ c ∈ t, DeviceId.allowedChar c = true) → Json.size t = t.length := by
    intro t each
    induction t with
    | nil => rfl
    | cons c rest ih =>
        have one : Json.size [c] = 1 := by
          have letter := each c List.mem_cons_self
          simp [Json.size, escape_allowed letter, Text.encode, (DeviceId.allowedChar_byte letter).1]
        rw [← List.singleton_append, Json.size_append, one,
          ih fun d inside => each d (List.mem_cons_of_mem _ inside), List.length_append]
        rfl
  rw [jsonSize, plain _ allowed]
  exact short

theorem deviceInfo_size (info : DeviceInfo) :
    (Text.encode info.toJson.render).length = jsonSize info.deviceId + 16 := by
  have shape : info.toJson.render = "\x7b\"device_id\":\"".toList ++
      (info.deviceId.toList.flatMap Json.escape ++ "\"\x7d".toList) := by
    simp [DeviceInfo.toJson, Json.render, Json.renderFields, Json.renderString, Json.escape]
  have front : (Text.encode "\x7b\"device_id\":\"".toList).length = 14 := by decide
  have last : (Text.encode "\"\x7d".toList).length = 2 := by decide
  rw [shape, Text.encode_append, Text.encode_append, List.length_append, List.length_append, front,
    last, jsonSize, Json.size]
  omega

/-- Items of a bounded size. -/
theorem renderItems_size {items : List Json} {bound : Nat}
    (each : ∀ item ∈ items, (Text.encode item.render).length ≤ bound) :
    (Text.encode (Json.renderItems items)).length ≤ items.length * (bound + 1) + 1 := by
  induction items with
  | nil =>
      have one : (Text.encode (Json.renderItems [])).length = 1 := by decide
      omega
  | cons item rest ih =>
      have first := each item List.mem_cons_self
      have later := ih fun other inside => each other (List.mem_cons_of_mem _ inside)
      have shape : Json.renderItems (item :: rest) =
          ",".toList ++ (item.render ++ Json.renderItems rest) := by
        simp [Json.renderItems]
      have comma : (Text.encode ",".toList).length = 1 := by decide
      rw [shape, Text.encode_append, Text.encode_append, List.length_append, List.length_append,
        comma, List.length_cons, Nat.succ_mul]
      omega

theorem array_size {items : List Json} {bound : Nat}
    (each : ∀ item ∈ items, (Text.encode item.render).length ≤ bound) :
    (Text.encode (Json.array items).render).length ≤ items.length * (bound + 1) + 2 := by
  cases items with
  | nil =>
      have two : (Text.encode (Json.array []).render).length = 2 := by decide
      omega
  | cons item rest =>
      have first := each item List.mem_cons_self
      have later := renderItems_size fun other inside => each other (List.mem_cons_of_mem _ inside)
      have shape : (Json.array (item :: rest)).render =
          "[".toList ++ (item.render ++ Json.renderItems rest) := by
        simp [Json.render]
      have bracket : (Text.encode "[".toList).length = 1 := by decide
      rw [shape, Text.encode_append, Text.encode_append, List.length_append, List.length_append,
        bracket, List.length_cons, Nat.succ_mul]
      omega

theorem deviceList_size {devices : List DeviceInfo} {bound : Nat}
    (each : ∀ info ∈ devices, jsonSize info.deviceId ≤ bound) :
    (Text.encode (Message.toJson (.deviceList devices)).render).length ≤
      devices.length * (bound + 17) + 35 := by
  have items : (Text.encode (Json.array (devices.map DeviceInfo.toJson)).render).length ≤
      (devices.map DeviceInfo.toJson).length * (bound + 17) + 2 := by
    apply array_size
    intro item inside
    obtain ⟨info, member, rfl⟩ := List.mem_map.mp inside
    rw [deviceInfo_size]
    exact Nat.add_le_add_right (each info member) 16
  have shape : (Message.toJson (.deviceList devices)).render =
      "\x7b\"type\":\"device_list\",\"devices\":".toList ++
        ((Json.array (devices.map DeviceInfo.toJson)).render ++ "\x7d".toList) := by
    simp [Message.toJson, Message.tagged, Json.render, Json.renderFields, Json.renderString,
      Json.escape]
  have front : (Text.encode "\x7b\"type\":\"device_list\",\"devices\":".toList).length = 32 := by
    decide
  have last : (Text.encode "\x7d".toList).length = 1 := by decide
  rw [List.length_map] at items
  rw [shape, Text.encode_append, Text.encode_append, List.length_append, List.length_append, front,
    last]
  omega

/-! ## The registry -/

section Registry

variable {cfg : Settings} {auth : AuthSnapshot} {acts : List Act} {s : Relay}

/-- A registered connection is in the handler of its device. -/
theorem registered_phase (run : Run cfg auth acts s) {d : DeviceId} {g : ConnId}
    (found : s.devices.lookup d = some g) :
    ∃ heartbeat point, (s.task g).phase = .agent d heartbeat point :=
  Phase.stage_key ((run_takeover run).2.registered found)

/-- What is known of the id a handler was entered with. -/
def Named : Phase → Prop
  | .agent d _ _ => DeviceId.isValid d = true
  | _ => True

theorem run_named (run : Run cfg auth acts s) (c : ConnId) : Named (s.task c).phase := by
  refine run_place (P := Named) trivial trivial ?_ run c
  intro acts s c e s' _ rule named
  cases rule with
  | move moves =>
      simp only [Relay.goto_task, Function.update_self]
      generalize (s.task c).phase = phase at moves
      cases moves with
      | agent valid => exact valid
      | _ => trivial
  | insertFresh here | insertOver here | stopPrevious here | control here | failPending here
  | failRequest here | unregister here =>
      rw [here] at named
      simpa [Named] using named
  | register here ok =>
      obtain ⟨rfl, -, -⟩ := Relay.registerPending_eq ok
      simp [Named]
  | _ => simp [Named]

theorem registered_valid (run : Run cfg auth acts s) {d : DeviceId} {g : ConnId}
    (found : s.devices.lookup d = some g) : DeviceId.isValid d = true := by
  obtain ⟨heartbeat, point, here⟩ := registered_phase run found
  have named := run_named run g
  rw [here] at named
  exact named

/-- The connection a device is registered with. -/
def Relay.holder (s : Relay) (d : DeviceId) : ConnId := (s.devices.lookup d).getD 0

theorem holder_of_mem {d : DeviceId} (member : d ∈ s.devices.keys) :
    s.devices.lookup d = some (s.holder d) := by
  obtain ⟨g, found⟩ :=
    Option.isSome_iff_exists.mp (AList.lookup_isSome.mpr (AList.mem_keys.mpr member))
  rw [Relay.holder, found]
  rfl

/-- A connection is registered for one device. -/
theorem holder_apart (run : Run cfg auth acts s) : (s.devices.keys.map s.holder).Nodup := by
  refine List.Nodup.map_on ?_ s.devices.keys_nodup
  intro d member d' member' same
  obtain ⟨_, _, here⟩ := registered_phase run (holder_of_mem member)
  obtain ⟨_, _, here'⟩ := registered_phase run (holder_of_mem member')
  rw [same, here'] at here
  cases here
  rfl

/-- It has not given its permit back, so there are no more devices than permits. -/
theorem registry_bounded (run : Run cfg auth acts s) : s.devices.keys.length ≤ maxConnections := by
  have quota := run_quota run
  have covered : ∀ g ∈ (s.devices.keys.map s.holder).toFinset, ∃ p, g ∈ s.permitsAt p := by
    intro g inside
    obtain ⟨d, member, rfl⟩ := List.mem_map.mp (List.mem_toFinset.mp inside)
    obtain ⟨_, _, here⟩ := registered_phase run (holder_of_mem member)
    refine ⟨.task (s.holder d), ?_⟩
    rw [Relay.permitsAt, quota.permits, here]
    exact List.mem_singleton.mpr rfl
  have bounded := quota.ledger.live_le covered
  rw [List.toFinset_card_of_nodup (holder_apart run), List.length_map] at bounded
  omega

end Registry

/-! ## The list -/

/-- A list of devices as the relay sends it. -/
structure Listing (devices : List DeviceInfo) : Prop where
  sorted : devices.Pairwise fun left right => left.deviceId < right.deviceId
  few : devices.length ≤ maxConnections
  valid : ∀ info ∈ devices, DeviceId.isValid info.deviceId = true

/-- Such a list is far below the limit of a frame. -/
theorem Listing.fits {devices : List DeviceInfo} (listing : Listing devices) :
    (Text.encode (Message.toJson (.deviceList devices)).render).length < maxFrameSize := by
  have size := deviceList_size fun info inside => jsonSize_valid (listing.valid info inside)
  have few : devices.length * (DeviceId.maxLength + 17) ≤
      maxConnections * (DeviceId.maxLength + 17) :=
    Nat.mul_le_mul_right _ listing.few
  have room : maxConnections * (DeviceId.maxLength + 17) + 35 < maxFrameSize := by decide
  omega

/-- The ids a relay has registered, sorted. -/
def Relay.listed (s : Relay) : List DeviceInfo :=
  (s.devices.keys.mergeSort (· ≤ ·)).map DeviceInfo.mk

section List

variable {cfg : Settings} {auth : AuthSnapshot} {acts : List Act} {s : Relay}

theorem mem_listed {info : DeviceInfo} :
    info ∈ s.listed ↔ ∃ g, s.devices.lookup info.deviceId = some g := by
  have perm := List.mergeSort_perm s.devices.keys fun left right => decide (left ≤ right)
  rw [← Option.isSome_iff_exists, AList.lookup_isSome, AList.mem_keys, ← perm.mem_iff]
  constructor
  · intro member
    obtain ⟨d, inside, rfl⟩ := List.mem_map.mp member
    exact inside
  · intro inside
    exact List.mem_map.mpr ⟨_, inside, rfl⟩

theorem listed_listing (run : Run cfg auth acts s) : Listing s.listed where
  sorted := by
    have strict := sortBy_strict (fun d : DeviceId => d) (by simpa using s.devices.keys_nodup)
    exact List.pairwise_map.mpr strict
  few := by
    rw [Relay.listed, List.length_map, List.length_mergeSort]
    exact registry_bounded run
  valid info inside := by
    obtain ⟨g, found⟩ := mem_listed.mp inside
    exact registered_valid run found

/-- A list that waits to be written. -/
def WaitingList : Phase → Prop
  | .controller (.reply (.deviceList devices)) => Listing devices
  | _ => True

theorem run_waitingList (run : Run cfg auth acts s) (c : ConnId) :
    WaitingList (s.task c).phase := by
  refine run_place (P := WaitingList) trivial trivial ?_ run c
  intro acts s c e s' run rule _
  cases rule with
  | move moves =>
      simp only [Relay.goto_task, Function.update_self]
      generalize (s.task c).phase = phase at moves
      cases moves with
      | list => exact listed_listing run
      | _ => trivial
  | register here ok =>
      obtain ⟨rfl, -, -⟩ := Relay.registerPending_eq ok
      simp [WaitingList]
  | _ => simp [WaitingList, noResponse]

/-- **The device list fits one frame**, the one a relay would build now and the ones that wait
to be written. -/
theorem device_list_fits {codec : Codec} (prints : codec.Prints) (run : Run cfg auth acts s) :
    (∃ devices, deviceListOf s.devices = .deviceList devices ∧
      devices.Pairwise (fun left right => left.deviceId < right.deviceId) ∧ devices.Nodup ∧
      ∀ d, ⟨d⟩ ∈ devices ↔ ∃ g, s.devices.lookup d = some g) ∧
    (codec.encode (deviceListOf s.devices)).length < maxFrameSize ∧
    (writeFrame codec (deviceListOf s.devices)).isSome = true ∧
    ∀ c devices, (s.task c).phase = .controller (.reply (.deviceList devices)) →
      (codec.encode (.deviceList devices)).length < maxFrameSize ∧
      (writeFrame codec (.deviceList devices)).isSome = true := by
  have fits {devices : List DeviceInfo} (listing : Listing devices) :
      (codec.encode (.deviceList devices)).length < maxFrameSize ∧
        (writeFrame codec (.deviceList devices)).isSome = true := by
    rw [writeFrame_isSome prints, prints]
    exact ⟨listing.fits, Nat.le_of_lt listing.fits⟩
  have listing := listed_listing run
  refine ⟨⟨s.listed, rfl, listing.sorted, ?_, fun d => mem_listed⟩, (fits listing).1,
    (fits listing).2, ?_⟩
  · refine listing.sorted.imp ?_
    rintro left right before rfl
    exact String.lt_irrefl _ before
  · intro c devices here
    have waiting := run_waitingList run c
    rw [here] at waiting
    exact fits waiting

end List

theorem device_list_fits_bridged :
    (serdeJson.encode (deviceListOf bridged.devices)).length < maxFrameSize ∧
      (writeFrame serdeJson (deviceListOf bridged.devices)).isSome = true := by
  obtain ⟨-, below, written, -⟩ := device_list_fits serdeJson_prints bridgedSession_run
  exact ⟨below, written⟩

end RustSsh.Server
