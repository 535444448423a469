import Infiltration.Proofs.Digest
import Infiltration.Proofs.Format
import Infiltration.Proofs.Run.Storing
import Infiltration.Proofs.Script.Execution
import Infiltration.Proofs.Tick.Orders

/-! # What the digest of a run vouches for

The digest of a run is taken of digests without anything between them, the outcome and the last
tick. Even so it tells all that the run has shown, unless byte strings that were hashed collide: the
last tick tells where the frames end, and the lines that were executed have left events. -/

namespace Infiltration

/-! ## Executed lines leave events -/

/-- The line that an entry with this heading announces. -/
def Heading.announced? (heading : Heading) : Option UInt32 :=
  if heading.1 = .scriptLineExecuted then heading.2 else none

/-- The lines that events announce. -/
def Log.announcedLines (log : Log) : List UInt32 :=
  (log.map Event.heading).filterMap Heading.announced?

/-- The effect of a command announces nothing. -/
theorem World.kind_perform {world : World} {line : UInt32} {command : Script.Command}
    {occurrence : Occurrence} (member : occurrence ∈ (world.perform line command).2) :
    occurrence.kind ≠ .scriptLineExecuted := by
  have told := mem_tale_of_mem_perform member
  cases command <;> simp_all [Script.Command.tale, Occurrence.kind]

namespace Tick

theorem announced_runCue (cue : Script.Cue) (world : World) :
    ((runCue cue world).2.map Occurrence.heading).filterMap Heading.announced? = [cue.line] := by
  have hquiet : ∀ heading ∈ (world.perform cue.line cue.command).2.map Occurrence.heading,
      heading.announced? = none := by
    intro heading member
    obtain ⟨occurrence, hoccurrence, rfl⟩ := List.mem_map.mp member
    exact if_neg (World.kind_perform hoccurrence)
  change cue.line :: _ = [cue.line]
  rw [List.filterMap_eq_nil_iff.mpr hquiet]

theorem announced_runCues (cues : List Script.Cue) (world : World) :
    ((runCues cues world).2.map Occurrence.heading).filterMap Heading.announced? =
      cues.map Script.Cue.line := by
  induction cues generalizing world with
  | nil => rfl
  | cons cue cues ih =>
      rw [runCues_cons, List.map_append, List.filterMap_append, announced_runCue, ih]
      rfl

end Tick

theorem Engine.announced_entries {engine : Engine} (labelled : engine.world.devices.Labelled) :
    Log.announcedLines engine.entries =
      (engine.mission.cuesAt engine.world.tick).map Script.Cue.line := by
  obtain ⟨back, hentries, hback⟩ := heading_entries labelled
  have hquiet : ∀ heading ∈ back, heading.announced? = none := by
    intro heading member
    rw [Heading.announced?, hback heading member, ite_self]
  rw [Log.announcedLines, hentries, List.filterMap_append,
    List.filterMap_eq_nil_iff.mpr hquiet, List.append_nil, cued, Tick.announced_runCues]

/-- A frame whose events announce the lines that it has executed. -/
def Frame.Told (frame : Frame) : Prop := frame.executedLines = Log.announcedLines frame.events

theorem RunResult.told_of_mem_simulate {level : Level} {cues : List Script.Cue} {config : Config}
    {frame : Frame} (member : frame ∈ (simulate level cues config).frames) : frame.Told := by
  let mission := Mission.of level cues config
  rw [simulate_eq] at member
  obtain ⟨place, hplace⟩ := List.mem_iff_getElem?.mp member
  obtain ⟨-, rfl⟩ := mission.getElem?_frames hplace
  change ((mission.after place).mission.cuesAt (mission.after place).closed.1.tick).map _ =
    Log.announcedLines (mission.after place).entries
  rw [Engine.announced_entries (mission.labelled_after place), mission.tick_closed_after]

/-! ## Frames are told by snapshots and log -/

namespace RunResult

/-- A frame's events are those of the log that are dated to its tick. -/
theorem WellFormed.events_at {limit : UInt64} {cues : List Script.Cue} {store : Bool}
    {result : RunResult} (wellFormed : result.WellFormed limit cues store) {place : ℕ}
    {frame : Frame} (h : result.frames[place]? = some frame) :
    frame.events = result.events.filter fun event => event.tick.toNat = place := by
  have hown : frame.events.filter (fun event => event.tick.toNat = place) = frame.events := by
    apply List.filter_eq_self.mpr
    intro event member
    exact decide_eq_true ((wellFormed.frame_at place frame h).event_tick event member)
  have hother {other : ℕ} {again : Frame} (hagain : result.frames[other]? = some again)
      (apart : other ≠ place) :
      again.events.filter (fun event => event.tick.toNat = place) = [] := by
    apply List.filter_eq_nil_iff.mpr
    intro event member
    rw [(wellFormed.frame_at other again hagain).event_tick event member]
    simpa using apart
  -- The frames before and after this one are dated to other ticks.
  obtain ⟨hlt, hframe⟩ := List.getElem?_eq_some_iff.mp h
  rw [wellFormed.events_eq, List.filter_flatMap, ← List.take_append_drop place result.frames,
    ← List.getElem_cons_drop hlt, hframe, List.flatMap_append, List.flatMap_cons, hown,
    List.flatMap_eq_nil_iff.mpr, List.flatMap_eq_nil_iff.mpr, List.nil_append, List.append_nil]
  · intro again member
    obtain ⟨other, hagain⟩ := List.mem_iff_getElem?.mp member
    rw [List.getElem?_drop] at hagain
    exact hother hagain (by omega)
  · intro again member
    obtain ⟨other, hagain⟩ := List.mem_iff_getElem?.mp member
    rw [List.getElem?_take] at hagain
    split at hagain
    · exact hother hagain (by omega)
    · simp at hagain

/-- Two results that tell of the same run. They may differ in their time limits, and in which
digests they store. -/
structure SameRun (result other : RunResult) : Prop where
  frames : result.frames.map (Frame.storing false) = other.frames.map (Frame.storing false)
  events : result.events = other.events
  outcome : result.outcome = other.outcome
  finalTick : result.finalTick = other.finalTick
  failureSummary : result.failureSummary = other.failureSummary

theorem WellFormed.frames_eq {limit limit' : UInt64} {cues cues' : List Script.Cue}
    {store store' : Bool} {result other : RunResult}
    (wellFormed : result.WellFormed limit cues store)
    (wellFormed' : other.WellFormed limit' cues' store')
    (told : ∀ frame ∈ result.frames, frame.Told) (told' : ∀ frame ∈ other.frames, frame.Told)
    (snapshots : result.frames.map Frame.snapshot = other.frames.map Frame.snapshot)
    (events : result.events = other.events) :
    result.frames.map (Frame.storing false) = other.frames.map (Frame.storing false) := by
  apply List.ext_getElem?
  intro place
  have hsnapshots := congrArg (fun list => list[place]?) snapshots
  simp only [List.getElem?_map] at hsnapshots ⊢
  cases h : result.frames[place]? with
  | none =>
      rw [h, Option.map_none, eq_comm, Option.map_eq_none_iff] at hsnapshots
      rw [hsnapshots]
  | some frame =>
      rw [h, Option.map_some, eq_comm, Option.map_eq_some_iff] at hsnapshots
      obtain ⟨again, hagain, hsnapshot⟩ := hsnapshots
      have htick : frame.tick = again.tick := by
        rw [← UInt64.toNat_inj, (wellFormed.frame_at place frame h).tick_eq,
          (wellFormed'.frame_at place again hagain).tick_eq]
      have hevents : frame.events = again.events := by
        rw [wellFormed.events_at h, wellFormed'.events_at hagain, events]
      have hlines : frame.executedLines = again.executedLines := by
        rw [told frame (List.mem_of_getElem? h), told' again (List.mem_of_getElem? hagain), hevents]
      rw [hagain, Option.map_some, Option.map_some, Frame.storing, Frame.storing, htick, hsnapshot,
        hevents, hlines]

end RunResult

/-! ## The parts of a fingerprint -/

theorem littleEndian_inj {word other : UInt64} (h : littleEndian word = littleEndian other) :
    word = other := by
  apply UInt64.toNat_inj.mp
  apply @eq_of_bytes 8 _ _ word.toNat_lt other.toNat_lt
  intro place hplace
  have hbyte := congrArg UInt8.toNat (List.map_inj_left.mp h place (List.mem_range.mpr hplace))
  have hshift : (UInt64.ofNat (8 * place)).toNat % 64 = 8 * place := by
    rw [UInt64.toNat_ofNat']
    omega
  rwa [UInt64.toNat_toUInt8, UInt64.toNat_toUInt8, UInt64.toNat_shiftRight, UInt64.toNat_shiftRight,
    hshift, Nat.shiftRight_eq_div_pow, Nat.shiftRight_eq_div_pow, Nat.pow_mul] at hbyte

theorem Outcome.title_injective : Function.Injective title := by
  intro outcome other
  cases outcome <;> cases other <;> simp [title]

theorem Outcome.length_title (outcome : Outcome) : outcome.title.length = 7 := by
  cases outcome <;> decide

/-- Texts of one size are told apart by what they make in a row. -/
theorem flatMap_toList_inj {size : ℕ} (pos : 0 < size) {texts others : List String}
    (sized : ∀ text ∈ texts, text.length = size) (sized' : ∀ text ∈ others, text.length = size)
    (h : texts.flatMap String.toList = others.flatMap String.toList) : texts = others := by
  have hempty {text : String} {rest : List Char} (hsize : text.length = size) :
      text.toList ++ rest ≠ [] := by
    intro h
    rw [← String.length_toList, (List.append_eq_nil_iff.mp h).1, List.length_nil] at hsize
    omega
  induction texts generalizing others with
  | nil =>
      cases others with
      | nil => rfl
      | cons other others => exact absurd h.symm (hempty (sized' other List.mem_cons_self))
  | cons text texts ih =>
      cases others with
      | nil => exact absurd h (hempty (sized text List.mem_cons_self))
      | cons other others =>
          have hlengths : text.toList.length = other.toList.length := by
            rw [String.length_toList, String.length_toList, sized text List.mem_cons_self,
              sized' other List.mem_cons_self]
          obtain ⟨hhead, htail⟩ := List.append_inj h hlengths
          have htexts := ih (fun text member => sized text (.tail _ member))
            (fun text member => sized' text (.tail _ member)) htail
          rw [String.toList_inj.mp hhead, htexts]

namespace RunResult

/-- The digests that the digest of a result is made of. -/
def digests (result : RunResult) : List String :=
  result.frames.map Frame.digest ++ result.events.map Event.digest

theorem fingerprint_eq (result : RunResult) :
    result.fingerprint = (String.join result.digests ++ result.outcome.title).toUTF8 ++
      ⟨(littleEndian result.finalTick).toArray⟩ := by
  rw [fingerprint, digests, String.join_append]

theorem length_of_mem_digests {result : RunResult}
    (genuine : ∀ frame ∈ result.frames, frame.Genuine) {text : String} (member : text ∈ result.digests) : text.length = 64 := by
  rcases List.mem_append.mp member with member | member
  · obtain ⟨frame, hframe, rfl⟩ := List.mem_map.mp member
    rw [genuine frame hframe]
    exact Blake3.length_hex _
  · obtain ⟨event, -, rfl⟩ := List.mem_map.mp member
    exact Blake3.length_hex _

/-- A fingerprint tells its parts, if the last tick tells how many frames there are. -/
theorem fingerprint_inj {result other : RunResult}
    (genuine : ∀ frame ∈ result.frames, frame.Genuine)
    (genuine' : ∀ frame ∈ other.frames, frame.Genuine)
    (framed : result.frames.length = result.finalTick.toNat + 1)
    (framed' : other.frames.length = other.finalTick.toNat + 1)
    (h : result.fingerprint = other.fingerprint) :
    result.frames.map Frame.digest = other.frames.map Frame.digest ∧
      result.events.map Event.digest = other.events.map Event.digest ∧
      result.outcome = other.outcome ∧ result.finalTick = other.finalTick := by
  -- Cut from behind: the clock and the title have fixed sizes, and the digests one size each.
  have hbytes := congrArg (fun bytes => bytes.data.toList) h
  simp only [fingerprint_eq, ByteArray.toList_data_append] at hbytes
  obtain ⟨htext, hclock⟩ := List.append_inj' hbytes rfl
  have hfinal := littleEndian_inj hclock
  have hchars := congrArg String.toList
    (String.toByteArray_inj.mp (ByteArray.ext (Array.toList_inj.mp htext)))
  rw [String.toList_append, String.toList_append, String.toList_join, String.toList_join] at hchars
  have htitles : result.outcome.title.toList.length = other.outcome.title.toList.length := by
    rw [String.length_toList, String.length_toList, Outcome.length_title, Outcome.length_title]
  obtain ⟨hdigests, htitle⟩ := List.append_inj' hchars htitles
  have hdigests : result.digests = other.digests :=
    flatMap_toList_inj (by decide) (fun _ => length_of_mem_digests genuine)
      (fun _ => length_of_mem_digests genuine') hdigests
  have hlengths : (result.frames.map Frame.digest).length =
      (other.frames.map Frame.digest).length := by
    rw [List.length_map, List.length_map, framed, framed', hfinal]
  obtain ⟨hframes, hevents⟩ := List.append_inj hdigests hlengths
  exact ⟨hframes, hevents, Outcome.title_injective (String.toList_inj.mp htitle), hfinal⟩

/-! ## Equal digests -/

/-- The byte strings that are hashed for the digest of a result, those behind its frames' digests
included. -/
def hashed (result : RunResult) : List ByteArray :=
  result.fingerprint :: (result.frames.map (fun frame => frame.snapshot.bytes) ++
    result.events.map Event.bytes)

theorem fingerprint_mem_hashed (result : RunResult) : result.fingerprint ∈ result.hashed :=
  List.mem_cons_self

theorem snapshots_hashed (result : RunResult) :
    (result.frames.map fun frame => frame.snapshot.bytes) ⊆ result.hashed :=
  fun _ member => List.mem_cons_of_mem _ (List.mem_append_left _ member)

theorem events_hashed (result : RunResult) : result.events.map Event.bytes ⊆ result.hashed :=
  fun _ member => List.mem_cons_of_mem _ (List.mem_append_right _ member)

theorem map_digest {frames : List Frame} (genuine : ∀ frame ∈ frames, frame.Genuine) :
    frames.map Frame.digest = (frames.map fun frame => frame.snapshot.bytes).map Blake3.hex := by
  rw [List.map_map]
  exact List.map_congr_left genuine

variable {level level' : Level} {cues cues' : List Script.Cue} {config config' : Config}

theorem failureSummary_simulate :
    (simulate level cues config).failureSummary =
      if (simulate level cues config).outcome = .failure then
        some (FailureSummary.ofLog (simulate level cues config).events)
      else none := rfl

theorem sameRun_of_digest
    (safe : ¬ Blake3.Collision
      ((simulate level cues config).hashed ++ (simulate level' cues' config').hashed))
    (h : (simulate level cues config).digest = (simulate level' cues' config').digest) :
    (simulate level cues config).SameRun (simulate level' cues' config') := by
  have hleft := List.subset_append_left (simulate level cues config).hashed
    (simulate level' cues' config').hashed
  have hright := List.subset_append_right (simulate level cues config).hashed
    (simulate level' cues' config').hashed
  have hfingerprint := Blake3.eq_of_hex safe (hleft (fingerprint_mem_hashed _))
    (hright (fingerprint_mem_hashed _)) h
  obtain ⟨hframes, hevents, houtcome, hfinal⟩ := fingerprint_inj
    (fun _ => genuine_of_mem_simulate) (fun _ => genuine_of_mem_simulate)
    wellFormed_simulate.length_frames wellFormed_simulate.length_frames hfingerprint
  have hsnapshots : (simulate level cues config).frames.map Frame.snapshot =
      (simulate level' cues' config').frames.map Frame.snapshot := by
    rw [map_digest fun _ => genuine_of_mem_simulate,
      map_digest fun _ => genuine_of_mem_simulate] at hframes
    apply List.map_injective_iff.mpr Snapshot.bytes_injective
    rw [List.map_map, List.map_map]
    exact Blake3.eq_of_map_hex safe (List.Subset.trans (snapshots_hashed _) hleft)
      (List.Subset.trans (snapshots_hashed _) hright) hframes
  have hlog : (simulate level cues config).events = (simulate level' cues' config').events := by
    apply List.map_injective_iff.mpr Event.bytes_injective
    apply Blake3.eq_of_map_hex safe (List.Subset.trans (events_hashed _) hleft)
      (List.Subset.trans (events_hashed _) hright)
    rwa [List.map_map, List.map_map]
  refine ⟨?_, hlog, houtcome, hfinal, ?_⟩
  · exact wellFormed_simulate.frames_eq wellFormed_simulate (fun _ => told_of_mem_simulate)
      (fun _ => told_of_mem_simulate) hsnapshots hlog
  · rw [failureSummary_simulate, failureSummary_simulate, houtcome, hlog]

theorem digest_storing {result : RunResult} (genuine : ∀ frame ∈ result.frames, frame.Genuine)
    (store : Bool) : (result.storing store).digest = result.digest := by
  have hdigests : (result.storing store).frames.map Frame.digest =
      result.frames.map Frame.digest := by
    rw [storing, List.map_map]
    exact List.map_congr_left fun frame member => Frame.digest_storing (genuine frame member) store
  rw [digest, digest, fingerprint, fingerprint, hdigests]
  rfl

end RunResult

/-- Equal digests mean the same run, unless byte strings that were hashed for them collide. And
whether digests are stored shows nowhere but in the stored digests, not even in the run's digest. -/
theorem simulate_digest (level level' : Level) (cues cues' : List Script.Cue)
    (config config' : Config) :
    ((simulate level cues config).digest = (simulate level' cues' config').digest →
      (simulate level cues config).SameRun (simulate level' cues' config') ∨
        Blake3.Collision
          ((simulate level cues config).hashed ++ (simulate level' cues' config').hashed)) ∧
    ∀ store,
      simulate level cues { config with storeDigests := store } =
        (simulate level cues config).storing store ∧
      (simulate level cues { config with storeDigests := store }).digest =
        (simulate level cues config).digest := by
  constructor
  · intro h
    by_cases safe : Blake3.Collision
        ((simulate level cues config).hashed ++ (simulate level' cues' config').hashed)
    · exact .inr safe
    · exact .inl (RunResult.sameRun_of_digest safe h)
  · intro store
    have hresult := RunResult.simulate_storing level cues config store
    refine ⟨hresult, ?_⟩
    rw [hresult, RunResult.digest_storing fun _ => RunResult.genuine_of_mem_simulate]

theorem simulate_digest_corridor :
    (simulate corridor corridorCues {}).digest =
        (simulate corridor corridorCues { storeDigests := false }).digest ∧
      ((simulate corridor corridorCues {}).SameRun
          (simulate corridor corridorCues { storeDigests := false }) ∨
        Blake3.Collision ((simulate corridor corridorCues {}).hashed ++
          (simulate corridor corridorCues { storeDigests := false }).hashed)) := by
  obtain ⟨hsame, hstoring⟩ := simulate_digest corridor corridor corridorCues corridorCues {}
    { storeDigests := false }
  have h := (hstoring false).2.symm
  exact ⟨h, hsame h⟩

end Infiltration
