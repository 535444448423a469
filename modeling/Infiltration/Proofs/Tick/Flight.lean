import Infiltration.Proofs.Tick.Persistence

/-! # The flight of a drone

A drone on patrol counts the ticks and comes on by one cell of its path whenever its interval is full.
Where it is and what it has counted follows from the number of ticks alone. Nothing but the patrol
moves a drone, and nothing but its destruction stops it. -/

namespace Infiltration

namespace Drone

variable {drone : Drone} {start : Point} {ticks : ℕ}

/-- How many ticks a drone takes for a cell. -/
def beat (drone : Drone) : ℕ := max 1 drone.stepInterval.toNat

/-- How many cells a drone comes on in a number of ticks. -/
def strides (drone : Drone) (ticks : ℕ) : ℕ := (drone.stepTimer.toNat + ticks) / drone.beat

/-- A drone after a number of ticks on patrol. -/
def after (drone : Drone) (ticks : ℕ) : Drone :=
  { drone with
    pathIndex := (drone.pathIndex + drone.strides ticks) % drone.path.length
    stepTimer := UInt32.ofNat ((drone.stepTimer.toNat + ticks) % drone.beat) }

/-- The place of a drone after a number of ticks on patrol. Where it started need not be on its path. -/
def placeAfter (drone : Drone) (start : Point) (ticks : ℕ) : Point :=
  if drone.strides ticks = 0 then start else drone.path.getD (drone.after ticks).pathIndex start

theorem beat_pos (drone : Drone) : 0 < drone.beat := Nat.le_max_left _ _

theorem beat_lt (drone : Drone) : drone.beat < UInt32.size :=
  Nat.max_lt.mpr ⟨by decide, drone.stepInterval.toNat_lt⟩

@[simp] theorem path_after (drone : Drone) (ticks : ℕ) : (drone.after ticks).path = drone.path := rfl

@[simp] theorem stepInterval_after (drone : Drone) (ticks : ℕ) :
    (drone.after ticks).stepInterval = drone.stepInterval := rfl

theorem toNat_stepTimer_after (drone : Drone) (ticks : ℕ) :
    (drone.after ticks).stepTimer.toNat = (drone.stepTimer.toNat + ticks) % drone.beat := by
  have hlt := Nat.mod_lt (drone.stepTimer.toNat + ticks) drone.beat_pos
  rw [after, UInt32.toNat_ofNat']
  exact Nat.mod_eq_of_lt (Nat.lt_trans hlt drone.beat_lt)

theorem pathIndex_after_lt (way : 0 < drone.path.length) :
    (drone.after ticks).pathIndex < drone.path.length :=
  Nat.mod_lt _ way

/-- The interval of a drone is not full before its count comes to the beat. -/
theorem short_iff : (drone.after ticks).stepTimer + 1 < drone.stepInterval ↔
    (drone.stepTimer.toNat + ticks) % drone.beat + 1 < drone.beat := by
  have hlt := Nat.mod_lt (drone.stepTimer.toNat + ticks) drone.beat_pos
  have hbeat := drone.beat_lt
  have hnext : ((drone.after ticks).stepTimer + 1).toNat =
      (drone.stepTimer.toNat + ticks) % drone.beat + 1 := by
    rw [UInt32.toNat_add, toNat_stepTimer_after, UInt32.toNat_one, Nat.mod_eq_of_lt]
    exact Nat.lt_of_le_of_lt hlt hbeat
  rw [UInt32.lt_iff_toNat_lt, hnext]
  simp only [beat] at hlt ⊢
  omega

/-- Within its interval a drone only counts. -/
theorem after_succ_of_short (short : (drone.after ticks).stepTimer + 1 < drone.stepInterval) :
    drone.strides (ticks + 1) = drone.strides ticks ∧
      drone.after (ticks + 1) =
        { drone.after ticks with stepTimer := (drone.after ticks).stepTimer + 1 } := by
  have hshort := short_iff.mp short
  have hsum := Nat.mod_add_div (drone.stepTimer.toNat + ticks) drone.beat
  obtain ⟨hdiv, hmod⟩ : (drone.stepTimer.toNat + (ticks + 1)) / drone.beat = drone.strides ticks ∧
      (drone.stepTimer.toNat + (ticks + 1)) % drone.beat =
        (drone.stepTimer.toNat + ticks) % drone.beat + 1 :=
    (Nat.div_mod_unique drone.beat_pos).mpr ⟨by rw [strides]; omega, hshort⟩
  refine ⟨hdiv, ?_⟩
  simp only [after, strides, hdiv, hmod]
  simp

/-- With a full interval a drone comes on by one cell and counts anew. -/
theorem after_succ_of_full (full : ¬(drone.after ticks).stepTimer + 1 < drone.stepInterval) :
    drone.strides (ticks + 1) = drone.strides ticks + 1 ∧
      drone.after (ticks + 1) =
        { drone.after ticks with
          stepTimer := 0
          pathIndex := ((drone.after ticks).pathIndex + 1) % drone.path.length } := by
  have hfull := mt short_iff.mpr full
  have hlt := Nat.mod_lt (drone.stepTimer.toNat + ticks) drone.beat_pos
  have hsum := Nat.mod_add_div (drone.stepTimer.toNat + ticks) drone.beat
  obtain ⟨hdiv, hmod⟩ : (drone.stepTimer.toNat + (ticks + 1)) / drone.beat = drone.strides ticks + 1 ∧
      (drone.stepTimer.toNat + (ticks + 1)) % drone.beat = 0 :=
    (Nat.div_mod_unique drone.beat_pos).mpr ⟨by rw [strides, Nat.mul_succ]; omega, drone.beat_pos⟩
  refine ⟨hdiv, ?_⟩
  simp only [after, strides, hdiv, hmod]
  simp [Nat.add_assoc]

end Drone

namespace Device

/-- A drone on patrol: on, whole, on a path of at least two cells, with its cell and its count in
bounds. -/
structure OnPatrol (device : Device) (drone : Drone) : Prop where
  kind : device.equipment = .drone drone
  on : device.enabled = true
  alive : drone.alive = true
  way : 2 ≤ drone.path.length
  index_lt : drone.pathIndex < drone.path.length
  timer_lt : drone.stepTimer.toNat < drone.beat

/-- The place of a drone, and all of the drone but its life. -/
def flight? (device : Device) : Option (Point × Drone) :=
  device.drone?.map fun drone => (device.position, { drone with alive := true })

theorem OnPatrol.upDrone {device : Device} {drone : Drone} (duty : device.OnPatrol drone) :
    device.upDrone = true :=
  upDrone_eq_true.mpr ⟨duty.on, drone, duty.kind, duty.alive⟩

theorem OnPatrol.flight?_eq {device : Device} {drone : Drone} (duty : device.OnPatrol drone) :
    device.flight? = some (drone.placeAfter device.position 0, drone.after 0) := by
  have hstrides : drone.strides 0 = 0 := Nat.div_eq_of_lt duty.timer_lt
  have hafter : drone.after 0 = { drone with alive := true } := by
    simp [Drone.after, hstrides, Nat.mod_eq_of_lt duty.index_lt, Nat.mod_eq_of_lt duty.timer_lt,
      duty.alive]
  simp [flight?, drone?, duty.kind, Drone.placeAfter, hstrides, hafter]

/-- A patrol takes a drone from one tick to the next. -/
theorem flight?_patrol {device : Device} {drone : Drone} {start : Point} {ticks : ℕ}
    (way : 2 ≤ drone.path.length) (up : device.upDrone = true)
    (flying : device.flight? = some (drone.placeAfter start ticks, drone.after ticks)) :
    device.patrol.flight? =
      some (drone.placeAfter start (ticks + 1), drone.after (ticks + 1)) := by
  obtain ⟨on, flown, kind, alive⟩ := upDrone_eq_true.mp up
  obtain ⟨other, hother, heq⟩ := Option.map_eq_some_iff.mp flying
  obtain rfl : flown = other := Equipment.drone.inj (kind.symm.trans (drone?_eq_some.mp hother))
  obtain ⟨hplace, hflown⟩ := Prod.mk.inj heq
  obtain rfl : flown = drone.after ticks := by rw [← hflown, ← alive]
  have ready : (device.enabled && (drone.after ticks).alive &&
      decide (2 ≤ (drone.after ticks).path.length)) = true := by
    simp [on, alive, way]
  have whole : { drone.after (ticks + 1) with alive := true } = drone.after (ticks + 1) := by
    have halive : drone.alive = true := alive
    simp [Drone.after, halive]
  simp only [patrol, kind]
  rw [if_pos ready]
  by_cases short : (drone.after ticks).stepTimer + 1 < drone.stepInterval
  · obtain ⟨hstrides, hafter⟩ := Drone.after_succ_of_short short
    have hsame : drone.placeAfter start (ticks + 1) = drone.placeAfter start ticks := by
      simp only [Drone.placeAfter, hstrides, hafter]
    rw [if_pos (by simpa using short), hsame, ← whole, hafter]
    simp [flight?, drone?, hplace]
  · obtain ⟨hstrides, hafter⟩ := Drone.after_succ_of_full short
    have inside : (drone.after (ticks + 1)).pathIndex < drone.path.length :=
      Drone.pathIndex_after_lt (Nat.zero_lt_of_lt way)
    have hcell (fallback : Point) : drone.path.getD (drone.after (ticks + 1)).pathIndex fallback =
        drone.path.get ⟨_, inside⟩ := by
      simp [List.getD_eq_getElem?_getD, List.getElem?_eq_getElem inside]
    have hindex : (drone.after ticks).nextIndex = (drone.after (ticks + 1)).pathIndex := by
      rw [Drone.nextIndex_of_lt (Drone.pathIndex_after_lt (Nat.zero_lt_of_lt way)), hafter,
        Drone.path_after]
    rw [if_neg (by simpa using short)]
    simp only [flight?, drone?, Option.map_some, Option.some.injEq, Prod.mk.injEq]
    constructor
    · rw [Drone.placeAfter, hstrides, if_neg (Nat.succ_ne_zero _), hindex, Drone.path_after, hcell,
        hcell]
    · rw [← whole, hindex, hafter]

end Device

/-! ## Who touches a drone -/

namespace Device.Deed

variable {world : World} {key : String} {stage : Stage} {device device' : Device}
  {occurrences : List Occurrence}

theorem flight?_eq (deed : Deed world key stage device occurrences device') (h : stage ≠ .patrol) :
    device'.flight? = device.flight? := by
  cases deed with
  | patrolled => exact absurd rfl h
  | tagged => rfl
  | _ => simp_all [flight?, drone?]

/-- A drone stays up unless it is told destroyed. -/
theorem upDrone_eq (deed : Deed world key stage device occurrences device')
    (intact : ∀ turret, .droneDestroyed key turret ∉ occurrences) :
    device'.upDrone = device.upDrone := by
  cases deed with
  | patrolled => exact device.upDrone_patrol
  | tagged => rfl
  | destroyed turret => exact absurd List.mem_cons_self (intact turret)
  | _ => simp_all [upDrone, drone?]

end Device.Deed

namespace Deed

variable {stage : Stage} {world next : World} {occurrences : List Occurrence} {key : String}

theorem flights_eq (deed : Deed stage world occurrences next) (h : stage ≠ .patrol) :
    next.devices.view Device.flight? = world.devices.view Device.flight? :=
  deed.view_eq (fun deed => deed.flight?_eq h) fun kind => by
    simp [Device.flight?, Device.drone?, kind]

theorem droneUp (deed : Deed stage world occurrences next) (up : world.devices.DroneUp key)
    (intact : ∀ turret, .droneDestroyed key turret ∉ occurrences) : next.devices.DroneUp key := by
  obtain ⟨device, found, up⟩ := up
  obtain ⟨device', found', rfl | deed | ⟨alarm, alarm', kind, rfl⟩⟩ := deed.find?_next found
  · exact ⟨device', found', up⟩
  · exact ⟨device', found', by rwa [deed.upDrone_eq intact]⟩
  · simp [Device.upDrone, Device.drone?, kind] at up

end Deed

namespace Deeds

variable {stages : Set Stage} {world last : World} {occurrences : List Occurrence} {key : String}

theorem flights_eq (deeds : Deeds stages world occurrences last) (h : .patrol ∉ stages) :
    last.devices.view Device.flight? = world.devices.view Device.flight? :=
  deeds.keeps (P := fun next =>
      next.devices.view Device.flight? = world.devices.view Device.flight?)
    (fun admitted deed heq =>
      (deed.flights_eq (by rintro rfl; exact h admitted)).trans heq) rfl

theorem droneUp (deeds : Deeds stages world occurrences last) (up : world.devices.DroneUp key)
    (intact : ∀ turret, .droneDestroyed key turret ∉ occurrences) : last.devices.DroneUp key := by
  induction deeds with
  | nil => exact up
  | cons _ deed _ ih =>
      refine ih (deed.droneUp up ?_) ?_
      · exact fun turret told => intact turret (List.mem_append_left _ told)
      · exact fun turret told => intact turret (List.mem_append_right _ told)

end Deeds

end Infiltration
