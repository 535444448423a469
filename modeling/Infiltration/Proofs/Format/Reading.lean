import Infiltration.Format.Level
import Infiltration.Format.Run
import Infiltration.Format.Script
import Infiltration.Proofs.Json.Form
import Infiltration.Proofs.Roster
import Mathlib.Data.Option.Basic

/-! # Every form is read back

Levels, compilations, worlds, snapshots, results and verifications come back from the compact texts of
their JSON forms as they were, so no two of them share a text. The only numbers here that are not words
by themselves are places in a path and counts of frames, which have to fit one. How deep a form is
nested is counted along, since a reader goes down only so far. -/

namespace Infiltration

open Json

/-! ## Names -/

@[simp] theorem Facing.ofJson?_toJson (facing : Facing) : ofJson? facing.toJson = some facing :=
  named?_name mem_all (by decide) facing

@[simp] theorem Trigger.ofJson?_toJson (trigger : Trigger) : ofJson? trigger.toJson = some trigger :=
  named?_name (fun trigger => by cases trigger <;> decide) (by decide) trigger

@[simp] theorem AlarmLevel.ofJson?_toJson (level : AlarmLevel) :
    ofJson? level.toJson = some level :=
  named?_name (fun level => by cases level <;> decide) (by decide) level

@[simp] theorem AlarmLevel.variantOver?_toJson (isNothing : Json → Bool) (level : AlarmLevel) :
    variantOver? isNothing all name level.toJson = some level :=
  level.ofJson?_toJson

@[simp] theorem DeviceType.ofJson?_toJson (type : DeviceType) : ofJson? type.toJson = some type :=
  named?_name (fun type => by cases type <;> decide) (by decide) type

@[simp] theorem Outcome.ofJson?_toJson (outcome : Outcome) : ofJson? outcome.toJson = some outcome :=
  named?_name (fun outcome => by cases outcome <;> decide) (by decide) outcome

@[simp] theorem EventKind.variant?_name (kind : EventKind) :
    variant? all name (.string kind.name) = some kind :=
  named?_name (fun kind => by cases kind <;> decide) (by decide) kind

@[simp] theorem Category.variant?_name (category : Category) :
    variant? all name (.string category.name) = some category :=
  named?_name (fun category => by cases category <;> decide) (by decide) category

-- A record is read by its names, and a field that may be null as one that may be missing.
attribute [local simp] record? known?_of_names Members.optional

/-! ## Devices -/

@[simp] theorem Point.ofJson?_toJson (point : Point) : ofJson? point.toJson = some point := by
  simp [ofJson?, toJson]

@[simp] theorem Point.plain_toJson (point : Point) (height : ℕ) :
    Plain (height + 1) point.toJson := .object (by simp)

@[simp] theorem Point.list?_toJson (points : List Point) :
    list? ofJson? (Json.ofList toJson points) = some points :=
  list?_ofList fun point _ => point.ofJson?_toJson

@[simp] theorem Point.plain_list (points : List Point) (height : ℕ) :
    Plain (height + 2) (Json.ofList toJson points) :=
  plain_ofList fun point _ => point.plain_toJson height

/-- The place in the path fits a word. -/
def Drone.Fits (drone : Drone) : Prop := drone.pathIndex < UInt64.size

/-- The names of the fields that every device has. -/
def Device.commonNames : List String := ["id", "x", "y", "enabled", "tag", "type"]

section

variable {front : Members} (common : ∀ member ∈ front, member.1 ∈ Device.commonNames)
include common

theorem known?_common {names : List String} (apart : ∀ name ∈ Device.commonNames, name ∉ names)
    (back : Members) : known? names (.object (front ++ back)) = known? names (.object back) :=
  known?_append (fun member hmember => apart _ (common member hmember)) back

theorem Camera.ofJson?_members (camera : Camera) :
    ofJson? (.object (front ++ camera.members)) = some camera := by
  rw [ofJson?, known?_common common (by decide)]
  simp [members]

theorem Turret.ofJson?_members (turret : Turret) :
    ofJson? (.object (front ++ turret.members)) = some turret := by
  rw [ofJson?, known?_common common (by decide)]
  simp [members]

theorem Drone.ofJson?_members {drone : Drone} (fits : drone.Fits) :
    ofJson? (.object (front ++ drone.members)) = some drone := by
  rw [ofJson?, known?_common common (by decide)]
  simp [members, index?_ofIndex fits]

theorem Door.ofJson?_members (door : Door) :
    ofJson? (.object (front ++ door.members)) = some door := by
  rw [ofJson?, known?_common common (by decide)]
  simp [members]

theorem Alarm.ofJson?_members (alarm : Alarm) :
    ofJson? (.object (front ++ alarm.members)) = some alarm := by
  rw [ofJson?, known?_common common (by decide)]
  simp [members]

end

namespace Equipment

def Fits : Equipment → Prop
  | drone part => part.Fits
  | _ => True

/-- No field of some equipment has the name of a field that every device has. -/
theorem members_apart (equipment : Equipment) :
    ∀ member ∈ equipment.members, member.1 ∉ Device.commonNames := by
  cases equipment <;>
    simp [members, Camera.members, Turret.members, Drone.members, Door.members, Alarm.members,
      Device.commonNames]

theorem ofJson?_members {equipment : Equipment} (fits : equipment.Fits) {front : Members}
    (common : ∀ member ∈ front, member.1 ∈ Device.commonNames) :
    ofJson? equipment.type (.object (front ++ equipment.members)) = some equipment := by
  cases equipment with
  | camera part => exact congrArg (Option.map camera) (part.ofJson?_members common)
  | turret part => exact congrArg (Option.map turret) (part.ofJson?_members common)
  | drone part => exact congrArg (Option.map drone) (Drone.ofJson?_members common fits)
  | door part => exact congrArg (Option.map door) (part.ofJson?_members common)
  | alarm part => exact congrArg (Option.map alarm) (part.ofJson?_members common)
  | terminal => rfl

theorem plain_members {equipment : Equipment} (fits : equipment.Fits) (height : ℕ) :
    ∀ member ∈ equipment.members, Plain (height + 2) member.2 := by
  cases equipment with
  | camera part => simp [members, Camera.members, Facing.toJson]
  | turret part => simp [members, Turret.members, Trigger.toJson]
  | drone part => simp [members, Drone.members, plain_ofIndex _ fits]
  | door part => simp [members, Door.members]
  | alarm part => simp [members, Alarm.members, AlarmLevel.toJson]
  | terminal => simp [members]

end Equipment

namespace Device

def Fits (device : Device) : Prop := device.equipment.Fits

/-- The fields that every device has. -/
def common (device : Device) : Members :=
  [("id", .string device.id), ("x", ofSigned32 device.position.x), ("y", ofSigned32 device.position.y),
    ("enabled", .bool device.enabled)] ++
  memberIf "tag" .string device.tag ++ [("type", device.type.toJson)]

theorem toJson_eq (device : Device) :
    device.toJson = .object (device.common ++ device.equipment.members) := by
  simp [toJson, common]

@[simp] theorem plain_toJson {device : Device} (fits : device.Fits) (height : ℕ) :
    Plain (height + 3) device.toJson := by
  rw [toJson_eq]
  refine .object (List.forall_mem_append.mpr ⟨?_, Equipment.plain_members fits height⟩)
  cases htag : device.tag <;> simp [common, memberIf, htag, DeviceType.toJson]

theorem common_names (device : Device) : ∀ member ∈ device.common, member.1 ∈ commonNames := by
  cases htag : device.tag <;> simp [common, memberIf, htag, commonNames]

/-- Of a device's own object, only the common fields are seen by their names. -/
theorem known?_toJson (device : Device) :
    known? ["id", "x", "y", "enabled", "tag", "type"] device.toJson = some device.common := by
  rw [toJson_eq]
  refine (known?_append_left device.equipment.members_apart device.common).trans ?_
  cases htag : device.tag <;> simp [common, memberIf, htag, commonNames]

@[simp] theorem ofJson?_toJson {device : Device} (fits : device.Fits) :
    ofJson? device.toJson = some device := by
  have hheld : device.toJson.isHeld := (plain_toJson fits 0).exact.isHeld
  have hequipment : Equipment.ofJson? device.type device.toJson = some device.equipment :=
    device.toJson_eq ▸ Equipment.ofJson?_members fits device.common_names
  rw [ofJson?, known?_toJson]
  obtain ⟨id, ⟨x, y⟩, enabled, tag, equipment⟩ := device
  cases tag <;> simp [hheld, common, memberIf, hequipment]

end Device

/-! ## Worlds -/

/-- The place in the path fits a word. -/
def Player.Fits (player : Player) : Prop := player.pathIndex < UInt64.size

@[simp] theorem Player.plain_toJson {player : Player} (fits : player.Fits) (height : ℕ) :
    Plain (height + 1) player.toJson := .object (by simp [plain_ofIndex _ fits])

@[simp] theorem Player.ofJson?_toJson {player : Player} (fits : player.Fits) :
    ofJson? player.toJson = some player := by
  have hheld : player.toJson.isHeld := (plain_toJson fits 0).exact.isHeld
  rw [ofJson?, hheld]
  simp [toJson, index?_ofIndex fits]

namespace Roster

def Fits (roster : Roster) : Prop := ∀ entry ∈ roster.entries, entry.2.Fits

@[simp] theorem plain_toJson {roster : Roster} (fits : roster.Fits) (height : ℕ) :
    Plain (height + 4) roster.toJson :=
  plain_entries fun entry member => Device.plain_toJson (fits entry member) height

/-- The devices come back in their order. -/
@[simp] theorem ofJson?_toJson {roster : Roster} (fits : roster.Fits) :
    ofJson? roster.toJson = some roster := by
  have hentries := mapM_entries fun entry member => Device.ofJson?_toJson (fits entry member)
  rw [toJson, ofJson?, hentries, Option.map_some, ofList_entries]

end Roster

structure World.Fits (world : World) : Prop where
  player : world.player.Fits
  devices : world.devices.Fits

theorem World.plain_toJson {world : World} (fits : world.Fits) (height : ℕ) :
    Plain (height + 5) world.toJson :=
  .object (by simp [fits.player, fits.devices, Outcome.toJson])

theorem World.ofJson?_toJson {world : World} (fits : world.Fits) :
    ofJson? world.toJson = some world := by
  simp [ofJson?, toJson, fits.player, fits.devices]

structure Snapshot.Fits (snapshot : Snapshot) : Prop where
  player : snapshot.player.Fits
  devices : snapshot.devices.Fits

@[simp] theorem Snapshot.plain_toJson {snapshot : Snapshot} (fits : snapshot.Fits) (height : ℕ) :
    Plain (height + 5) snapshot.toJson :=
  .object (by simp [fits.player, fits.devices, AlarmLevel.toJson])

@[simp] theorem Snapshot.ofJson?_toJson {snapshot : Snapshot} (fits : snapshot.Fits) :
    ofJson? snapshot.toJson = some snapshot := by
  simp [ofJson?, toJson, fits.player, fits.devices]

/-! ## Levels -/

@[simp] theorem LevelMap.plain_toJson (map : LevelMap) (height : ℕ) :
    Plain (height + 3) map.toJson := .object (by simp)

@[simp] theorem LevelMap.ofJson?_toJson (map : LevelMap) : ofJson? map.toJson = some map := by
  simp [ofJson?, toJson]

@[simp] theorem Constraints.plain_toJson (constraints : Constraints) (height : ℕ) :
    Plain (height + 1) constraints.toJson := .object (by simp)

@[simp] theorem Constraints.ofJson?_toJson (constraints : Constraints) :
    ofJson? constraints.toJson = some constraints := by
  simp [ofJson?, toJson]

namespace Level

def Fits (level : Level) : Prop := ∀ device ∈ level.devices, device.Fits

theorem plain_toJson {level : Level} (fits : level.Fits) (height : ℕ) :
    Plain (height + 5) level.toJson := by
  have hdevices : Plain (height + 4) (Json.ofList Device.toJson level.devices) :=
    plain_ofList fun device member => Device.plain_toJson (fits device member) height
  cases hscript : level.suggestedScript <;>
    exact .object (by simp [memberIf, hscript, hdevices])

theorem ofJson?_toJson {level : Level} (fits : level.Fits) :
    ofJson? level.toJson = some level := by
  have hdevices : list? Device.ofJson? (Json.ofList Device.toJson level.devices) =
      some level.devices :=
    list?_ofList fun device member => Device.ofJson?_toJson (fits device member)
  obtain ⟨_, _, _, _, _, _, _, _, _, _, script⟩ := level
  cases script <;> simp [ofJson?, toJson, memberIf, hdevices]

end Level

/-! ## Events -/

@[simp] theorem Fact.plain_toJson (fact : Fact) (height : ℕ) : Plain height fact.toJson := by
  cases fact <;> simp [toJson]

theorem Fact.ofJson?_toJson (fact : Fact) : ofJson? fact.toJson = some fact := by
  cases fact with
  | count value => exact congrArg (Option.map count) (word64?_ofWord64 value)
  | _ => rfl

namespace Payload

/-- A key beyond all others stands last. -/
theorem place_of_lt {key : String} {entries : List (String × Fact)}
    (last : ∀ entry ∈ entries, entry.1 < key) (fact : Fact) :
    place key fact entries = entries ++ [(key, fact)] := by
  induction entries with
  | nil => rfl
  | cons entry rest ih =>
      have hlt := last entry List.mem_cons_self
      rw [place, if_neg (String.lt_asymm hlt), if_neg (String.ne_of_lt hlt).symm,
        ih fun other member => last other (.tail _ member)]
      rfl

theorem entries_foldl_insert (entries : List (String × Fact)) (payload : Payload)
    (sorted : ((payload.entries ++ entries).map Prod.fst).Pairwise (· < ·)) :
    (entries.foldl (fun payload entry => payload.insert entry.1 entry.2) payload).entries =
      payload.entries ++ entries := by
  induction entries generalizing payload with
  | nil => simp
  | cons entry rest ih =>
      have hplace : (payload.insert entry.1 entry.2).entries = payload.entries ++ [entry] := by
        apply place_of_lt
        intro other member
        rw [List.map_append, List.pairwise_append] at sorted
        exact sorted.2.2 _ (List.mem_map_of_mem member) _ List.mem_cons_self
      rw [List.foldl_cons, ih _ (by simpa [hplace] using sorted), hplace, List.append_assoc,
        List.singleton_append]

theorem ofList_entries (payload : Payload) : ofList payload.entries = payload :=
  ext (entries_foldl_insert payload.entries empty payload.sorted)

@[simp] theorem plain_toJson (payload : Payload) (height : ℕ) :
    Plain (height + 1) payload.toJson :=
  plain_entries fun entry _ => entry.2.plain_toJson height

@[simp] theorem ofJson?_toJson (payload : Payload) : ofJson? payload.toJson = some payload := by
  have hentries := mapM_entries fun (entry : String × Fact) (_ : entry ∈ payload.entries) =>
    entry.2.ofJson?_toJson
  rw [toJson, ofJson?, hentries, Option.map_some, ofList_entries]

end Payload

theorem Event.plain_toJson (event : Event) (height : ℕ) : Plain (height + 2) event.toJson := by
  cases hline : event.line <;> exact .object (by simp [memberIf, hline])

theorem Event.ofJson?_toJson (event : Event) : ofJson? event.toJson = some event := by
  obtain ⟨_, _, _, _, line, _⟩ := event
  cases line <;> simp [ofJson?, toJson, memberIf]

@[simp] theorem Log.plain_toJson (log : Log) (height : ℕ) :
    Plain (height + 3) (Log.toJson log) :=
  plain_ofList fun event _ => event.plain_toJson height

@[simp] theorem Log.ofJson?_toJson (log : Log) : ofJson? (Log.toJson log) = some log :=
  list?_ofList fun event _ => event.ofJson?_toJson

/-! ## Results -/

def Frame.Fits (frame : Frame) : Prop := frame.snapshot.Fits

theorem Frame.plain_toJson {frame : Frame} (fits : frame.Fits) (height : ℕ) :
    Plain (height + 6) frame.toJson := by
  have hsnapshot := Snapshot.plain_toJson fits height
  cases hdigest : frame.storedDigest <;> exact .object (by simp [memberIf, hdigest, hsnapshot])

theorem Frame.ofJson?_toJson {frame : Frame} (fits : frame.Fits) :
    ofJson? frame.toJson = some frame := by
  have hsnapshot := Snapshot.ofJson?_toJson fits
  obtain ⟨_, _, _, _, digest⟩ := frame
  cases digest <;> simp [ofJson?, toJson, memberIf, hsnapshot]

@[simp] theorem FailureSummary.plain_toJson (summary : FailureSummary) (height : ℕ) :
    Plain (height + 2) summary.toJson := .object (by simp)

@[simp] theorem FailureSummary.ofJson?_toJson (summary : FailureSummary) :
    ofJson? summary.toJson = some summary := by
  simp [ofJson?, toJson]

@[simp] theorem FailureSummary.nullable?_toJson (summary : FailureSummary) :
    nullable? ofJson? summary.toJson = some (some summary) :=
  nullable?_form Json.noConfusion summary.ofJson?_toJson

namespace RunResult

def Fits (result : RunResult) : Prop := ∀ frame ∈ result.frames, frame.Fits

theorem plain_toJson {result : RunResult} (fits : result.Fits) (height : ℕ) :
    Plain (height + 8) result.toJson := by
  have hframes : Plain (height + 7) (Json.ofList Frame.toJson result.frames) :=
    plain_ofList fun frame member => Frame.plain_toJson (fits frame member) height
  cases hsummary : result.failureSummary <;>
    exact .object (by simp [memberIf, hsummary, hframes, Outcome.toJson])

theorem ofJson?_toJson {result : RunResult} (fits : result.Fits) :
    ofJson? result.toJson = some result := by
  have hframes : list? Frame.ofJson? (Json.ofList Frame.toJson result.frames) =
      some result.frames :=
    list?_ofList fun frame member => Frame.ofJson?_toJson (fits frame member)
  obtain ⟨_, _, _, _, _, summary⟩ := result
  cases summary <;> simp [ofJson?, toJson, memberIf, hframes]

end RunResult

theorem Divergence.plain_toJson (divergence : Divergence) (height : ℕ) :
    Plain (height + 1) divergence.toJson := .object (by simp)

theorem Divergence.ofJson?_toJson (divergence : Divergence) :
    ofJson? divergence.toJson = some divergence := by
  simp [ofJson?, toJson]

/-- The count of frames fits a word. -/
def Verification.Fits (verification : Verification) : Prop :=
  verification.framesMatched < UInt64.size

theorem Verification.plain_toJson {verification : Verification} (fits : verification.Fits)
    (height : ℕ) : Plain (height + 2) verification.toJson := by
  have hdivergence : Plain (height + 1) (ofOption Divergence.toJson verification.firstDivergence) :=
    plain_ofOption fun divergence _ => divergence.plain_toJson height
  exact .object (by simp [plain_ofIndex _ fits, hdivergence])

theorem Verification.ofJson?_toJson {verification : Verification} (fits : verification.Fits) :
    ofJson? verification.toJson = some verification := by
  have hdivergence : nullable? Divergence.ofJson?
      (ofOption Divergence.toJson verification.firstDivergence) =
        some verification.firstDivergence :=
    nullable?_ofOption (fun _ => Json.noConfusion) fun divergence _ => divergence.ofJson?_toJson
  simp [ofJson?, toJson, index?_ofIndex fits, hdivergence]

/-! ## Scripts -/

namespace Script

namespace Command

@[simp] theorem plain_toJson (command : Command) (height : ℕ) :
    Plain (height + 1) command.toJson := by
  cases command <;> exact .object (by simp [members])

theorem kind?_toJson (command : Command) :
    kind? command.toJson = some (command.label, command.toJson) := by
  have hapart : ∀ member ∈ command.members, member.1 ∉ ["kind"] := by
    cases command <;> simp [members]
  have hknown : known? ["kind"] command.toJson = some [("kind", .string command.label)] :=
    (known?_append_left hapart [("kind", .string command.label)]).trans (by simp)
  change (known? ["kind"] command.toJson).bind _ = _
  simp [hknown]

theorem ofFields?_toJson (command : Command) :
    ofFields? command.label command.toJson = some command := by
  cases command <;> simp [ofFields?, toJson, label, members, known?_cons]

@[simp] theorem ofJson?_toJson (command : Command) : ofJson? command.toJson = some command := by
  have hheld : command.toJson.isHeld := (command.plain_toJson 0).exact.isHeld
  simp [ofJson?, hheld, kind?_toJson, ofFields?_toJson]

end Command

theorem Cue.plain_toJson (cue : Cue) (height : ℕ) : Plain (height + 2) cue.toJson :=
  .object (by simp)

theorem Cue.ofJson?_toJson (cue : Cue) : ofJson? cue.toJson = some cue := by
  simp [ofJson?, toJson]

theorem Diagnostic.plain_toJson (diagnostic : Diagnostic) (height : ℕ) :
    Plain (height + 1) diagnostic.toJson := .object (by simp)

theorem Diagnostic.ofJson?_toJson (diagnostic : Diagnostic) :
    ofJson? diagnostic.toJson = some diagnostic := by
  simp [ofJson?, toJson]

namespace Compilation

theorem plain_toJson (compilation : Compilation) (height : ℕ) :
    Plain (height + 4) compilation.toJson := by
  have hcues : Plain (height + 3) (Json.ofList Cue.toJson compilation.cues) :=
    plain_ofList fun cue _ => cue.plain_toJson height
  have herrors : Plain (height + 3) (Json.ofList Diagnostic.toJson compilation.errors) :=
    plain_ofList fun diagnostic _ => diagnostic.plain_toJson (height + 1)
  exact .object (by simp [hcues, herrors])

theorem ofJson?_toJson (compilation : Compilation) :
    ofJson? compilation.toJson = some compilation := by
  have hcues : list? Cue.ofJson? (Json.ofList Cue.toJson compilation.cues) =
      some compilation.cues :=
    list?_ofList fun cue _ => cue.ofJson?_toJson
  have herrors : list? Diagnostic.ofJson? (Json.ofList Diagnostic.toJson compilation.errors) =
      some compilation.errors :=
    list?_ofList fun diagnostic _ => diagnostic.ofJson?_toJson
  simp [ofJson?, toJson, hcues, herrors]

end Compilation

end Script

/-! ## Texts -/

/-- A value that fits comes back from the compact text of its form, which no other one has. -/
structure Json.RoundTrips {α : Type} (toJson : α → Json) (ofJson? : Json → Option α)
    (fits : α → Prop) : Prop where
  back {value : α} (h : fits value) : (parse (toJson value).compact).bind ofJson? = some value
  distinct {value other : α} (h : fits value) (h' : fits other)
    (same : (toJson value).compact = (toJson other).compact) : value = other

/-- Of a plain form that is read back, the text is too. -/
theorem Json.roundTrips {α : Type} {toJson : α → Json} {ofJson? : Json → Option α}
    {fits : α → Prop} (plain : ∀ {value}, fits value → Plain deepest (toJson value))
    (back : ∀ {value}, fits value → ofJson? (toJson value) = some value) :
    RoundTrips toJson ofJson? fits := by
  have hback {value : α} (h : fits value) :
      (parse (toJson value).compact).bind ofJson? = some value := by
    rw [parse_compact (plain h), Option.bind_some, back h]
  refine ⟨hback, ?_⟩
  intro value other h h' same
  rw [← Option.some.injEq, ← hback h, same, hback h']

/-- Levels, compilations, worlds, snapshots, results and verifications come back from their texts. -/
theorem formats_roundTrip :
    RoundTrips Level.toJson Level.ofJson? Level.Fits ∧
      RoundTrips Script.Compilation.toJson Script.Compilation.ofJson? (fun _ => True) ∧
      RoundTrips World.toJson World.ofJson? World.Fits ∧
      RoundTrips Snapshot.toJson Snapshot.ofJson? Snapshot.Fits ∧
      RoundTrips RunResult.toJson RunResult.ofJson? RunResult.Fits ∧
      RoundTrips Verification.toJson Verification.ofJson? Verification.Fits where
  left := roundTrips (fun fits => Level.plain_toJson fits 122) Level.ofJson?_toJson
  right.left := roundTrips (fun {compilation} _ => compilation.plain_toJson 123)
    fun {compilation} _ => compilation.ofJson?_toJson
  right.right.left := roundTrips (fun fits => World.plain_toJson fits 122) World.ofJson?_toJson
  right.right.right.left :=
    roundTrips (fun fits => Snapshot.plain_toJson fits 122) Snapshot.ofJson?_toJson
  right.right.right.right.left :=
    roundTrips (fun fits => RunResult.plain_toJson fits 119) RunResult.ofJson?_toJson
  right.right.right.right.right :=
    roundTrips (fun fits => Verification.plain_toJson fits 125) Verification.ofJson?_toJson

/-- Large numbers, a tag and names with a quote, a control character and a letter beyond ASCII. -/
def attic : Level where
  id := "attic \"é\"\u0001"
  map := { width := 2, height := -1 }
  entry := ⟨0, 0⟩
  exit := ⟨1, 0⟩
  playerPath := [⟨0, 0⟩, ⟨1, 0⟩]
  devices :=
    [{ id := "bat", position := ⟨1, 0⟩, enabled := true, tag := some "pest",
       equipment := .drone
        { path := [⟨1, 0⟩], pathIndex := 18446744073709551615, stepInterval := 4294967295 } },
      .newDoor "hatch" ⟨0, 0⟩ false]
  networkScope := ["bat"]
  constraints := { maxLines := 4, maxCommands := 4, maxDelay := 18446744073709551615, tickLimit := 3 }
  suggestedScript := some "wait(1)\n"

theorem attic_fits : attic.Fits := by
  simp [attic, Level.Fits, Device.Fits, Equipment.Fits, Drone.Fits, Device.newDoor]

theorem parse_attic : (parse attic.toJson.compact).bind Level.ofJson? = some attic :=
  formats_roundTrip.1.back attic_fits

end Infiltration
