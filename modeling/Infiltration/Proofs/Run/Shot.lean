import Infiltration.Proofs.Run.Stint

/-! # Every shot hits

A shot stands in the log directly before its hit, and no hit stands elsewhere. Who is hit was in range of
a turret that could engage, and the player only if the turret had no drone to take that it was told
to. A drone is destroyed once, and stays so. -/

namespace Infiltration

/-! ## Reading events -/

namespace Event

/-- A turret fires at a target. -/
def IsShot (turret target : String) (event : Event) : Prop :=
  event.kind = .turretFired ∧ event.text? "turretId" = some turret ∧
    event.text? "targetId" = some target

/-- A turret kills the player. -/
def IsKill (turret : String) (event : Event) : Prop :=
  event.kind = .playerKilled ∧ event.text? "turretId" = some turret

/-- A turret destroys a drone. -/
def IsWreck (drone turret : String) (event : Event) : Prop :=
  event.kind = .droneDestroyed ∧ event.text? "droneId" = some drone ∧
    event.text? "turretId" = some turret

/-- What a turret fires at it kills or destroys. -/
def IsHit (turret target : String) (event : Event) : Prop :=
  target = "player" ∧ event.IsKill turret ∨ event.IsWreck target turret

instance (turret target : String) (event : Event) : Decidable (event.IsShot turret target) :=
  inferInstanceAs (Decidable (_ ∧ _))

instance (turret : String) (event : Event) : Decidable (event.IsKill turret) :=
  inferInstanceAs (Decidable (_ ∧ _))

end Event

namespace Occurrence

variable {occurrence : Occurrence} {id tick : UInt64}

theorem isShot_event {turret target : String} :
    (occurrence.event id tick).IsShot turret target ↔ occurrence = .turretFired turret target := by
  cases occurrence <;>
    simp [Event.IsShot, event, kind, facts, Event.text?, Payload.text?, Payload.ofList,
      Payload.get?_insert_of_ne, Fact.text?]

theorem isKill_event {turret : String} :
    (occurrence.event id tick).IsKill turret ↔ occurrence = .playerKilled turret := by
  cases occurrence <;>
    simp [Event.IsKill, event, kind, facts, Event.text?, Payload.text?, Payload.ofList, Fact.text?]

theorem isWreck_event {drone turret : String} :
    (occurrence.event id tick).IsWreck drone turret ↔ occurrence = .droneDestroyed drone turret := by
  cases occurrence <;>
    simp [Event.IsWreck, event, kind, facts, Event.text?, Payload.text?, Payload.ofList,
      Payload.get?_insert_of_ne, Fact.text?]

theorem calm_of_peace (peace : occurrence.shooter? = none) :
    occurrence.kind ∉ [.turretFired, .playerKilled, .droneDestroyed] := by
  cases occurrence with
  | turretFired => cases peace
  | playerKilled => cases peace
  | droneDestroyed => cases peace
  | _ => simp [kind]

end Occurrence

theorem Target.isHit_hit (target : Target) (turret : String) (id tick : UInt64) :
    ((target.hit turret).event id tick).IsHit turret target.id := by
  cases target with
  | player => exact .inl ⟨rfl, Occurrence.isKill_event.mpr rfl⟩
  | drone drone => exact .inr (Occurrence.isWreck_event.mpr rfl)

/-! ## Volleys -/

/-- Shots and hits in pairs, among other events. -/
inductive Log.Volleys : Log → Prop where
  | nil : Volleys []
  | calm {event log} (calm : event.kind ∉ [.turretFired, .playerKilled, .droneDestroyed])
      (volleys : Volleys log) : Volleys (event :: log)
  | volley {shot hit log turret target} (fired : shot.IsShot turret target)
      (struck : hit.IsHit turret target) (volleys : Volleys log) : Volleys (shot :: hit :: log)

namespace Log.Volleys

variable {front back log : Log}

theorem append (h : Volleys front) (hback : Volleys back) : Volleys (front ++ back) := by
  induction h with
  | nil => exact hback
  | calm calm _ ih => exact .calm calm ih
  | volley fired struck _ ih => exact .volley fired struck ih

theorem kind_hit {turret target : String} {event : Event} (h : event.IsHit turret target) :
    event.kind = .playerKilled ∨ event.kind = .droneDestroyed :=
  h.imp (fun kill => kill.2.1) fun wreck => wreck.1

/-- After a shot stands its hit. -/
theorem followed (h : Volleys log) {shot : Event} (heq : log = front ++ shot :: back)
    (fired : shot.kind = .turretFired) : ∃ turret target hit rest, shot.IsShot turret target ∧
      back = hit :: rest ∧ hit.IsHit turret target := by
  induction h generalizing front with
  | nil => simp at heq
  | calm calm _ ih =>
      cases front with
      | nil =>
          obtain ⟨rfl, -⟩ := List.cons.inj heq
          simp [fired] at calm
      | cons first front => exact ih (List.cons.inj heq).2
  | @volley shot' hit log turret target fired' struck _ ih =>
      cases front with
      | nil =>
          obtain ⟨rfl, rfl⟩ := List.cons.inj heq
          exact ⟨turret, target, hit, log, fired', rfl, struck⟩
      | cons first front =>
          obtain ⟨rfl, htail⟩ := List.cons.inj heq
          cases front with
          | nil =>
              obtain ⟨rfl, -⟩ := List.cons.inj htail
              rcases kind_hit struck with h | h <;> simp [fired] at h
          | cons second front => exact ih (List.cons.inj htail).2

/-- Before a hit stands its shot. -/
theorem preceded (h : Volleys log) {hit : Event} (heq : log = front ++ hit :: back)
    (struck : hit.kind ∈ [.playerKilled, .droneDestroyed]) : ∃ turret target before shot,
      front = before ++ [shot] ∧ shot.IsShot turret target ∧ hit.IsHit turret target := by
  induction h generalizing front with
  | nil => simp at heq
  | calm calm _ ih =>
      cases front with
      | nil =>
          obtain ⟨rfl, -⟩ := List.cons.inj heq
          exact absurd (List.mem_cons_of_mem _ struck) calm
      | cons first front =>
          obtain ⟨turret, target, before, shot, rfl, h⟩ := ih (List.cons.inj heq).2
          exact ⟨turret, target, first :: before, shot, rfl, h⟩
  | @volley shot hit' log turret target fired struck' _ ih =>
      cases front with
      | nil =>
          obtain ⟨rfl, -⟩ := List.cons.inj heq
          simp [fired.1] at struck
      | cons first front =>
          obtain ⟨rfl, htail⟩ := List.cons.inj heq
          cases front with
          | nil =>
              obtain ⟨rfl, -⟩ := List.cons.inj htail
              exact ⟨turret, target, [], shot, rfl, fired, struck'⟩
          | cons second front =>
              obtain ⟨turret, target, before, shot', rfl, h⟩ := ih (List.cons.inj htail).2
              exact ⟨turret, target, shot :: second :: before, shot', rfl, h⟩

end Log.Volleys

/-- A log falls into parts, one for each member of a list, in the order of the list. -/
inductive Log.InParts {α : Type} (Tells : α → Log → Prop) : List α → Log → Prop where
  | nil : InParts Tells [] []
  | cons {a rest part log} (told : Tells a part) (parts : InParts Tells rest log) :
      InParts Tells (a :: rest) (part ++ log)

theorem Log.InParts.volleys {α : Type} {list : List α} {log : Log}
    (parts : log.InParts (fun _ part => part.Volleys) list) : log.Volleys := by
  induction parts with
  | nil => exact .nil
  | cons told _ ih => exact told.append ih

section Tick

variable (entered : ℕ) (tick : UInt64)

/-- Where no turret acts there is no volley. -/
theorem volleys_of_peace {occurrences : List Occurrence}
    (peace : ∀ occurrence ∈ occurrences, occurrence.shooter? = none) :
    Log.Volleys (enterFrom entered tick occurrences) := by
  induction occurrences generalizing entered with
  | nil => exact .nil
  | cons occurrence rest ih =>
      exact .calm (Occurrence.calm_of_peace (peace occurrence List.mem_cons_self))
        (ih (entered + 1) fun other member => peace other (List.mem_cons_of_mem _ member))

theorem volleys_announceLock (turret : Turret) (key target : String) :
    Log.Volleys (enterFrom entered tick (turret.announceLock key target)) := by
  unfold Turret.announceLock
  split
  · exact .nil
  · exact .calm (by simp [Occurrence.event, Occurrence.kind]) .nil

theorem Turret.Turn.volleys {key : String} {turret next : Turret} {on : Bool} {aim : Option Target}
    {told : List Occurrence} (turn : turret.Turn key on aim told next) :
    Log.Volleys (enterFrom entered tick told) := by
  cases turn with
  | off => exact .nil
  | idle => exact .nil
  | @held target => exact volleys_announceLock entered tick turret key target.id
  | @fired target =>
      rw [enterFrom_append]
      exact (volleys_announceLock entered tick turret key target.id).append
        (.volley (Occurrence.isShot_event.mpr rfl) (target.isHit_hit key _ tick) .nil)

section Turns

variable {Tells : String → Log → Prop} (silent : ∀ key, Tells key [])
  (turn : ∀ {key turret on aim told next}, Turret.Turn key turret on aim told next →
    ∀ entered, Tells key (enterFrom entered tick told))
  {world : World} (labelled : world.devices.Labelled) {alarmRed : Bool}
  (hred : alarmRed = decide (world.alarmLevel = .red))

include silent turn labelled hred

/-- What is so of every turn of a turret is so of what a key tells on its turn. -/
theorem Tick.tells_turretTurn (key : String) :
    Tells key (enterFrom entered tick (turretTurn alarmRed key world).2) := by
  subst hred
  cases found : world.devices.find? key with
  | none => simpa [turretTurn, found, enterFrom] using silent key
  | some device =>
      cases kind : device.turret? with
      | none => simpa [turretTurn, found, kind, enterFrom] using silent key
      | some turret =>
          obtain ⟨next, hturn, -⟩ :=
            turretTurn_turn labelled found (Device.turret?_eq_some.mp kind)
          exact turn hturn entered

/-- The turrets tell their turns one after the other. -/
theorem Tick.inParts_turns (keys : List String) :
    Log.InParts Tells keys (enterFrom entered tick (turns alarmRed keys world).2) := by
  induction keys generalizing world entered with
  | nil => exact .nil
  | cons key rest ih =>
      have hturn := turretTurn_deeds key hred
      simp only [turns, List.map_cons, inOrder_cons, enterFrom_append]
      exact .cons (tells_turretTurn entered tick silent turn labelled hred key)
        (ih _ (hturn.labelled labelled) (by rw [alarmLevel_of_turrets hturn, hred]))

end Turns

theorem Tick.volleys_turns {world : World} (labelled : world.devices.Labelled) (keys : List String)
    {alarmRed : Bool} (hred : alarmRed = decide (world.alarmLevel = .red)) :
    Log.Volleys (enterFrom entered tick (turns alarmRed keys world).2) :=
  (inParts_turns entered tick (fun _ => .nil) (fun turn entered => turn.volleys entered tick) labelled
    hred keys).volleys

end Tick

namespace Mission

variable (mission : Mission)

theorem volleys_entries (step : ℕ) : Log.Volleys (mission.after step).entries := by
  have labelled := mission.labelled_after step
  rw [Engine.entries, Engine.occurrences_departed, enterFrom_append, enterFrom_append]
  have hpeace := Engine.unengaged_deeds labelled |>.shooter?_eq_none (by simp)
  have hlate := (mission.after step).late_deeds.shooter?_eq_none (by simp [Stage.late])
  exact ((volleys_of_peace _ _ hpeace).append
    (Tick.volleys_turns _ _ (Engine.labelled_escalated labelled) _ rfl)).append
      (volleys_of_peace _ _ hlate)

theorem volleys_duration : Log.Volleys (mission.after mission.duration).log := by
  rw [mission.log_after le_rfl]
  induction List.range mission.duration with
  | nil => exact .nil
  | cons step rest ih => exact (mission.volleys_entries step).append ih

end Mission

/-! ## Where a shot comes from -/

/-- In a snapshot a working turret stands under a key, and its trigger or a red alarm lets it engage. -/
structure Snapshot.Armed (snapshot : Snapshot) (key : String) (device : Device) (turret : Turret) :
    Prop where
  found : snapshot.devices.find? key = some device
  kind : device.turret? = some turret
  on : device.enabled = true
  armed : turret.trigger = .always ∨ snapshot.alarmLevel = .red

/-- A turret has the player in range, and no drone is up in range that it was told to take. -/
def Snapshot.ShowsKill (snapshot : Snapshot) (key : String) : Prop :=
  ∃ device turret, snapshot.Armed key device turret ∧
    device.position.distance snapshot.player.position ≤ turret.range.toNat ∧
      ∀ id decoy, turret.desiredTarget = some id → snapshot.devices.find? id = some decoy →
        decoy.upDrone = true → turret.range.toNat < device.position.distance decoy.position

/-- A turret has a drone in range that it was told to take. -/
def Snapshot.ShowsWreck (snapshot : Snapshot) (drone key : String) : Prop :=
  ∃ device turret wreck, snapshot.Armed key device turret ∧ turret.desiredTarget = some drone ∧
    snapshot.devices.find? drone = some wreck ∧
      device.position.distance wreck.position ≤ turret.range.toNat

/-- Targets depend on what a turret is built like and told, not on its hold. -/
theorem World.target?_congr {turret turret' : Turret} (h : turret'.release = turret.release)
    (world : World) (place : Point) : world.target? place turret' = world.target? place turret := by
  cases turret
  cases turret'
  simp only [Turret.release, Turret.mk.injEq] at h
  obtain ⟨rfl, rfl, rfl, rfl, -⟩ := h
  rfl

namespace Engine

variable {engine : Engine} {key : String}

/-- From a turret's turn on only turrets, the player and the clock act. -/
theorem acted_deeds (labelled : engine.world.devices.Labelled)
    (present : key ∈ engine.world.devices.keys) :
    Deeds {.turrets, .walk, .clock} (engine.faced key)
      ((engine.served key).2 ++ engine.aftermath key) engine.closed.1 :=
  (served_deeds.mono (by simp)).trans (aftermath_deeds labelled present)

/-- A turret that takes a target stands in the frame as it stood when it took it. -/
theorem armed_scene (labelled : engine.world.devices.Labelled)
    (present : key ∈ engine.world.devices.keys) {target : Target}
    (aim : engine.aim? key = some target) :
    ∃ device turret, engine.scene.snapshot.Armed key device turret ∧
      (engine.faced key).target? device.position turret = some target := by
  obtain ⟨device, turret, found, kind, on, active, aim⟩ := World.aim?_eq_some.mp aim
  have hacted := acted_deeds labelled present
  have hstances := hacted.stances_eq (by rintro stage (rfl | rfl | rfl) <;> rfl)
  obtain ⟨device', found', hstance⟩ := Roster.find?_of_view_eq hstances.symm found
  obtain ⟨turret', kind', hsame⟩ :
      ∃ turret', device'.turret? = some turret' ∧
        (device'.enabled, device'.position, turret'.release) =
          (device.enabled, device.position, turret.release) := by
    rw [Device.stance?, Device.stance?, kind, Option.map_some, Option.map_eq_some_iff] at hstance
    exact hstance
  simp only [Prod.mk.injEq] at hsame
  obtain ⟨hon, hplace, hrelease⟩ := hsame
  have hlevel : engine.closed.1.alarmLevel = (engine.faced key).alarmLevel :=
    hacted.alarmLevel_eq (by simp)
  refine ⟨device', turret', ⟨found', kind', hon.trans on, ?_⟩, ?_⟩
  · have htrigger : turret'.release.trigger = turret.release.trigger := by rw [hrelease]
    change turret'.trigger = turret.trigger at htrigger
    rw [alarmLevel_scene, hlevel, htrigger]
    simpa [Turret.active] using active
  · rw [hplace, World.target?_congr hrelease, aim]

/-- Drones do not move once the turrets act. -/
theorem find?_faced_of_closed (labelled : engine.world.devices.Labelled)
    (present : key ∈ engine.world.devices.keys) {id : String} {device : Device}
    (found : engine.closed.1.devices.find? id = some device) :
    ∃ before, (engine.faced key).devices.find? id = some before ∧
      before.position = device.position :=
  Roster.find?_of_view_eq ((acted_deeds labelled present).places_eq (by simp)) found

/-- Whoever is killed stays where the shot found it. -/
theorem position_of_killed (labelled : engine.world.devices.Labelled)
    (present : key ∈ engine.world.devices.keys)
    (told : .playerKilled key ∈ (engine.served key).2) :
    engine.closed.1.player.position = (engine.faced key).player.position := by
  have dead : (engine.served key).1.player.alive = false := served_deeds.dead_of_told told
  rw [(aftermath_deeds labelled present).player_of_dead dead, served_deeds.position_eq (by simp)]

theorem kill_scene (labelled : engine.world.devices.Labelled)
    (member : .playerKilled key ∈ engine.occurrences) : engine.scene.snapshot.ShowsKill key := by
  obtain ⟨_, _, _, _, found, -, stint, told⟩ := stint_of_shooter labelled member rfl
  have present := mem_keys found
  obtain ⟨target, aim, -, -, hkill⟩ := stint.turn.fires told (by simp [Occurrence.kind])
  obtain rfl : target = .player := by cases target <;> simp_all [Target.hit]
  obtain ⟨device, turret, armed, aimed⟩ := armed_scene labelled present aim
  obtain ⟨idle, near⟩ := World.target?_eq_player.mp aimed
  rw [Player.inRange, Bool.and_eq_true, decide_eq_true_eq] at near
  refine ⟨device, turret, armed, ?_, ?_⟩
  · rw [player_scene, position_of_killed labelled present told]
    exact near.2
  · intro id decoy desired hdecoy up
    by_contra close
    obtain ⟨before, hbefore, hplace⟩ := find?_faced_of_closed labelled present hdecoy
    obtain ⟨other, hother, hup⟩ :=
      (acted_deeds labelled present).droneUp_of_next ⟨decoy, hdecoy, up⟩
    obtain rfl := Option.some.inj (hbefore.symm.trans hother)
    have hdown := Roster.not_up_of_desiredDrone? (labelled_faced labelled) idle desired hbefore
      (by rw [hplace]; exact Nat.le_of_not_lt close)
    exact absurd (hdown.symm.trans hup) Bool.false_ne_true

theorem wreck_scene (labelled : engine.world.devices.Labelled) {drone : String}
    (member : .droneDestroyed drone key ∈ engine.occurrences) :
    engine.scene.snapshot.ShowsWreck drone key ∧ engine.world.devices.DroneUp drone := by
  obtain ⟨_, _, _, _, found, -, stint, told⟩ := stint_of_shooter labelled member rfl
  have present := mem_keys found
  obtain ⟨target, aim, -, -, hwreck⟩ := stint.turn.fires told (by simp [Occurrence.kind])
  obtain rfl : target = .drone drone := by cases target <;> simp_all [Target.hit]
  obtain ⟨device, turret, armed, aimed⟩ := armed_scene labelled present aim
  obtain ⟨desired, before, hbefore, up, near⟩ :=
    (Roster.desiredDrone?_eq_some (labelled_faced labelled)).mp (World.target?_eq_drone.mp aimed)
  have hplaces := (acted_deeds labelled present).places_eq (by simp)
  obtain ⟨wreck, hwreck, hplace⟩ := Roster.find?_of_view_eq hplaces.symm hbefore
  refine ⟨⟨device, turret, wreck, armed, desired, hwreck, by rwa [hplace]⟩, ?_⟩
  exact (foretold_deeds labelled).droneUp_of_next ⟨before, hbefore, up⟩

end Engine

/-! ## Once and for all -/

/-- Two events do not destroy the same drone. -/
def Event.Apart (earlier later : Event) : Prop :=
  ∀ drone turret turret', earlier.IsWreck drone turret → ¬later.IsWreck drone turret'

/-- Two occurrences do not destroy the same drone. -/
def Occurrence.Apart (earlier later : Occurrence) : Prop :=
  ∀ drone turret turret', earlier = .droneDestroyed drone turret →
    later ≠ .droneDestroyed drone turret'

theorem Occurrence.Apart.enterFrom {occurrences : List Occurrence}
    (apart : occurrences.Pairwise Occurrence.Apart) (entered : ℕ) (tick : UInt64) :
    (enterFrom entered tick occurrences).Pairwise Event.Apart := by
  induction apart generalizing entered with
  | nil => exact .nil
  | cons first _ ih =>
      refine .cons ?_ (ih (entered + 1))
      intro event member drone turret turret' wreck
      obtain ⟨later, hlater, id, rfl⟩ := mem_enterFrom member
      rw [isWreck_event] at wreck ⊢
      exact first later hlater drone turret turret' wreck

theorem Device.Deed.apart {world : World} {key : String} {stage : Stage} {device device' : Device}
    {occurrences : List Occurrence} (deed : Deed world key stage device occurrences device') :
    occurrences.Pairwise Occurrence.Apart := by
  cases deed with
  | held =>
      simp only [Turret.announceLock]
      split <;> simp
  | fired =>
      simp only [Turret.announceLock]
      split <;> simp [Occurrence.Apart]
  | _ => simp

theorem Deed.apart {stage : Stage} {world next : World} {occurrences : List Occurrence}
    (deed : Deed stage world occurrences next) : occurrences.Pairwise Occurrence.Apart := by
  cases deed with
  | device _ deed => exact deed.apart
  | blocked => split <;> simp
  | _ => simp

/-- What has been destroyed is not destroyed again. -/
theorem Deeds.apart {stages : Set Stage} {world last : World} {occurrences : List Occurrence}
    (deeds : Deeds stages world occurrences last) : occurrences.Pairwise Occurrence.Apart := by
  induction deeds with
  | nil => exact .nil
  | cons _ deed deeds ih =>
      rw [List.pairwise_append]
      refine ⟨deed.apart, ih, ?_⟩
      rintro earlier hearlier later hlater drone turret turret' rfl rfl
      exact (deeds.down_of_told hlater).1 (deed.down_of_told hearlier).2

namespace Mission

variable (mission : Mission)

/-- What has been destroyed by one step stays so at every later one. -/
theorem droneDown_after {step steps : ℕ} (hstep : step ≤ steps) {drone : String}
    (down : (mission.after step).world.devices.DroneDown drone) :
    (mission.after steps).world.devices.DroneDown drone := by
  apply mission.after_le_induction (P := fun engine => engine.world.devices.DroneDown drone) hstep _ down
  intro engine labelled down _
  rw [devices_play]
  exact (Engine.play_deeds labelled).droneDown down

theorem droneDown_of_entry {step : ℕ} (h : step < mission.duration) {event : Event}
    (member : event ∈ (mission.after step).entries) {drone turret : String}
    (wreck : event.IsWreck drone turret) :
    ¬(mission.after step).world.devices.DroneDown drone ∧
      (mission.after (step + 1)).world.devices.DroneDown drone := by
  obtain ⟨occurrence, told, id, rfl⟩ := mem_enterFrom member
  obtain rfl := Occurrence.isWreck_event.mp wreck
  rw [mission.devices_after_succ h]
  exact (Engine.play_deeds (mission.labelled_after step)).down_of_told told

theorem apart_log {steps : ℕ} (h : steps ≤ mission.duration) :
    (mission.after steps).log.Pairwise Event.Apart := by
  induction steps with
  | zero => exact .nil
  | succ steps ih =>
      rw [mission.after_succ_of_running (mission.running_of_lt h), Engine.log_play,
        List.pairwise_append]
      refine ⟨ih (Nat.le_of_succ_le h), ?_, ?_⟩
      · exact Occurrence.Apart.enterFrom (Engine.play_deeds (mission.labelled_after steps)).apart _ _
      · intro earlier hearlier later hlater drone turret turret' first second
        rw [mission.log_after (Nat.le_of_succ_le h)] at hearlier
        obtain ⟨step, hstep, hearlier⟩ := List.mem_flatMap.mp hearlier
        rw [List.mem_range] at hstep
        have down := (mission.droneDown_of_entry (hstep.trans h) hearlier first).2
        exact (mission.droneDown_of_entry h hlater second).1 (mission.droneDown_after hstep down)

end Mission

/-- How the shots of a run go: each is followed by its hit at once, and there are no hits but those;
the frames bear out that the turret could take whom it hit; and what it has destroyed was up before
and never comes up again. -/
structure RunResult.ShotsHit (level : Level) (result : RunResult) : Prop where
  followed : ∀ front shot back, result.events = front ++ shot :: back → shot.kind = .turretFired →
    ∃ turret target hit rest, shot.IsShot turret target ∧ back = hit :: rest ∧
      hit.IsHit turret target
  preceded : ∀ front hit back, result.events = front ++ hit :: back →
    hit.kind ∈ [.playerKilled, .droneDestroyed] →
      ∃ turret target before shot, front = before ++ [shot] ∧ shot.IsShot turret target ∧
        hit.IsHit turret target
  killed : ∀ frame ∈ result.frames, ∀ event ∈ frame.events, ∀ turret, event.IsKill turret →
    frame.snapshot.ShowsKill turret
  destroyed : ∀ (i : ℕ) (frame : Frame), result.frames[i]? = some frame → ∀ event ∈ frame.events,
    ∀ drone turret, event.IsWreck drone turret →
      frame.snapshot.ShowsWreck drone turret ∧
        (∃ before, (result.snapshots level)[i]? = some before ∧ before.devices.DroneUp drone) ∧
          ∀ (j : ℕ) (later : Frame), i ≤ j → result.frames[j]? = some later →
            later.snapshot.devices.DroneDown drone
  once : result.events.Pairwise Event.Apart

theorem Mission.shotsHit_duration (mission : Mission) :
    (RunResult.ofEngine (mission.after mission.duration)).ShotsHit mission.level := by
  have volleys := mission.volleys_duration
  refine ⟨fun _ _ _ => volleys.followed, fun _ _ _ => volleys.preceded, ?_, ?_,
    mission.apart_log le_rfl⟩
  · intro frame member event hevent turret kill
    obtain ⟨step, -, rfl⟩ := mission.mem_frames member
    obtain ⟨occurrence, told, id, rfl⟩ := mem_enterFrom hevent
    obtain rfl := Occurrence.isKill_event.mp kill
    exact Engine.kill_scene (mission.labelled_after step) told
  · intro step frame hframe event hevent drone turret wreck
    obtain ⟨hstep, rfl⟩ := mission.getElem?_frames hframe
    obtain ⟨before, hbefore, -, hdevices⟩ := mission.snapshots_duration hstep
    obtain ⟨occurrence, told, id, rfl⟩ := mem_enterFrom hevent
    have down := (mission.droneDown_of_entry hstep hevent wreck).2
    obtain rfl := Occurrence.isWreck_event.mp wreck
    obtain ⟨shown, up⟩ := Engine.wreck_scene (mission.labelled_after step) told
    refine ⟨shown, ⟨before, hbefore, hdevices ▸ up⟩, ?_⟩
    intro j later hj hlater
    obtain ⟨hlt, rfl⟩ := mission.getElem?_frames hlater
    have hdown := mission.droneDown_after (Nat.succ_le_succ hj) down
    rwa [mission.devices_after_succ hlt] at hdown

/-- In every run each shot hits one that it could take, once. -/
theorem simulate_shotsHit (level : Level) (cues : List Script.Cue) (config : Config) :
    (simulate level cues config).ShotsHit level := by
  rw [RunResult.simulate_eq]
  exact (Mission.of level cues config).shotsHit_duration

end Infiltration
