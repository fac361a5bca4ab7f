import AssetMinifier.Proofs.FileSystem.Name
import AssetMinifier.Watch.Session
import Mathlib.Logic.Relation

/-!
# Steps of watching

Watching as a relation between states: others replace files in the watched
directories, the loop takes events and notices ticks when it is not building,
the timer runs out, and a build goes on by one step.  Changes by others may
fall between any two of these steps, also during the first build.
-/

namespace AssetMinifier

open FileSystem

/-! ## Replacing a file -/

theorem Change.applyAtOnce_write
    {fs : FileSystem} {path : Text} {l : Location}
    (hparents : fs.makeParents path = .ok fs)
    (hresolve : fs.resolve .name path = .ok l)
    (hnode : fs.node? l ≠ some .directory) (data : Text) :
    (Change.write path data).applyAtOnce fs = .ok (fs.put l (.file data)) := by
  simp only [applyAtOnce, replaceFile, hparents, hresolve, bind, Except.bind]
  rfl

/-- A file that is created or replaced is the one new thing. -/
theorem Change.created_write
    {fs : FileSystem} {path : Text} {l : Location} (h : l ≠ [])
    (hresolve : fs.resolve .name path = .ok l) (data : Text) :
    (Change.write path data).created fs (fs.put l (.file data)) = [l] := by
  have hfresh := map_fst_entries_put fs h (isNamed_of_resolve hresolve)
    (.file data)
  simp only [created, hfresh, List.filter_append,
    filter_isNone_node?_eq_nil, replaced?, Option.map_some, hresolve]
  cases hnode : fs.node? l with
  | none => simp [hnode]
  | some n => simp

namespace Watch

/-- A file can be created or replaced with a name in a watched directory, all
parents of its path being there. -/
structure Replaceable (w : Watch) (path : Text) (dir : Location) (name : Text) :
    Prop where
  makeParents_eq : w.fileSystem.makeParents path = .ok w.fileSystem
  resolve_eq : w.fileSystem.resolve .name path = .ok (dir ++ [name])
  node?_ne : w.fileSystem.node? (dir ++ [name]) ≠ some .directory
  mem_watched : dir ∈ w.watched

/-- Replacing a file changes that file and queues one event for it. -/
theorem change_write
    {w : Watch} {path : Text} {dir : Location} {name : Text}
    (h : w.Replaceable path dir name) (data : Text) :
    w.change (.write path data) =
      { w with
        fileSystem := w.fileSystem.put (dir ++ [name]) (.file data)
        queue := w.queue ++ [Path.ofSegments true (dir ++ [name])]
        watched := w.watched.filter fun l =>
          (w.fileSystem.put (dir ++ [name]) (.file data)).node? l =
            some .directory } := by
  have happly := Change.applyAtOnce_write h.makeParents_eq h.resolve_eq
    h.node?_ne data
  have hcreated := Change.created_write (by simp) h.resolve_eq data
  have hseen : (w.watched.any fun d => (dir ++ [name]).dropLast = d) = true :=
    List.any_eq_true.mpr ⟨dir, h.mem_watched, by simp⟩
  simp only [change, happly, hcreated, notify, List.filter_cons, hseen,
    if_true, List.filter_nil, List.map_cons, List.map_nil]

/-! ## The relation -/

/-- The state before the first build. -/
def opened (b : Builder) (fs : FileSystem) : Watch where
  builder := b
  fileSystem := fs
  watched := (wanted b.config).filterMap (directory? fs)
  output := ((wanted b.config).filter fun d => !fs.isDirectory d).flatMap
    skippedLine
  phase := .listing

/-- One step of watching. -/
inductive Step (w : Watch) : Watch → Prop
  /-- Others create or replace a file that is not named like a copy. -/
  | replace {path : Text} {dir : Location} {name : Text} (data : Text) :
      w.Replaceable path dir name → Asset.isMinified name = false →
      Step w (w.change (.write path data))
  /-- The loop takes an event. -/
  | takeEvent : w.phase = .idle → w.queue ≠ [] → Step w w.takeEvent
  /-- The timer runs out. -/
  | expire : w.running = true → Step w w.expire
  /-- The loop notices that the timer ran out. -/
  | takeTick : w.phase = .idle → w.ticked = true → Step w w.takeTick
  /-- The build goes on. -/
  | advance : w.phase ≠ .idle → Step w w.advance

/-- Any number of steps. -/
abbrev Reaches : Watch → Watch → Prop :=
  Relation.ReflTransGen Step

/-- What can come of a step of a build: the file system, how far the build has
come, and the error of the last build. -/
inductive Advanced (w : Watch) :
    FileSystem → Phase → Option BuildError → Prop
  | listed :
      w.phase = .listing →
      Advanced w w.fileSystem
        (.minifying (w.builder.discover w.fileSystem)) w.error
  | ended :
      w.phase = .minifying [] →
      Advanced w w.fileSystem .idle none
  | failed {source : Text} {rest : List Text} {e : BuildError} :
      w.phase = .minifying (source :: rest) →
      (w.builder.minifyFile w.fileSystem source).error = some e →
      Advanced w (w.builder.minifyFile w.fileSystem source).fileSystem .idle
        (some e)
  | minified {source : Text} {rest : List Text} :
      w.phase = .minifying (source :: rest) →
      (w.builder.minifyFile w.fileSystem source).error = none →
      Advanced w (w.builder.minifyFile w.fileSystem source).fileSystem
        (.minifying rest) w.error

theorem advanced_advance
    {w : Watch} (h : w.phase ≠ .idle) :
    Advanced w w.advance.fileSystem w.advance.phase w.advance.error := by
  rw [advance]
  split
  · rename_i hphase
    exact absurd hphase h
  · rename_i hphase
    exact .listed hphase
  · rename_i hphase
    exact .ended hphase
  · rename_i source rest hphase
    cases herror : (w.builder.minifyFile w.fileSystem source).error with
    | some e => simpa [herror, finish, print] using .failed hphase herror
    | none => simpa [herror, print] using .minified hphase herror

/-- A build touches neither the events nor the timer. -/
theorem advance_frame
    (w : Watch) :
    w.advance.builder = w.builder ∧ w.advance.queue = w.queue ∧
      w.advance.running = w.running ∧ w.advance.ticked = w.ticked := by
  rw [advance]
  split
  · exact ⟨rfl, rfl, rfl, rfl⟩
  · exact ⟨rfl, rfl, rfl, rfl⟩
  · exact ⟨rfl, rfl, rfl, rfl⟩
  · rename_i source rest hphase
    cases herror : (w.builder.minifyFile w.fileSystem source).error with
    | some e => simp [herror, finish, print]
    | none => simp [herror, print]

theorem takeEvent_cons
    {w : Watch} {path : Text} {queue : List Text}
    (h : w.queue = path :: queue) :
    w.takeEvent =
      { w with
        queue := queue
        running := Asset.isSource path || w.running
        output := w.output ++
          if Asset.isSource path then
            w.builder.report (changeLine path)
          else [] } := by
  rw [takeEvent, h]
  cases hsource : Asset.isSource path with
  | true => simp [hsource, print]
  | false => simp [hsource]

/-! ## Sessions as runs -/

theorem reaches_advanceMany
    (n : Nat) (w : Watch) :
    Reaches w (advanceMany n w) := by
  induction n generalizing w with
  | zero => exact .refl
  | succ n ih =>
      rw [advanceMany]
      split
      · exact .refl
      · rename_i hphase
        exact .head (.advance hphase) (ih w.advance)

theorem reaches_rebuild
    {w : Watch} (h : w.phase = .listing) :
    Reaches w w.rebuild := by
  have hlisting : { w with phase := .listing } = w := by
    rw [← h]
  rw [rebuild, hlisting]
  exact reaches_advanceMany _ w

theorem phase_takeEvent
    (w : Watch) :
    w.takeEvent.phase = w.phase := by
  cases hqueue : w.queue with
  | nil => rw [takeEvent, hqueue]
  | cons path queue => rw [takeEvent_cons hqueue]

theorem reaches_takeEvent
    {w : Watch} (h : w.phase = .idle) :
    Reaches w w.takeEvent := by
  by_cases hqueue : w.queue = []
  · rw [takeEvent, hqueue]
  · exact .single (.takeEvent h hqueue)

theorem reaches_takeEvents
    {w : Watch} (h : w.phase = .idle) :
    Reaches w w.takeEvents ∧ w.takeEvents.phase = .idle := by
  have hmany : ∀ (events : List Text) (v : Watch), v.phase = .idle →
      Reaches v (events.foldl (fun v _ => v.takeEvent) v) ∧
        (events.foldl (fun v _ => v.takeEvent) v).phase = .idle := by
    intro events
    induction events with
    | nil => exact fun v hv => ⟨.refl, hv⟩
    | cons event events ih =>
        intro v hv
        obtain ⟨hreaches, hphase⟩ :=
          ih v.takeEvent ((phase_takeEvent v).trans hv)
        exact ⟨(reaches_takeEvent hv).trans hreaches, hphase⟩
  exact hmany w.queue w h

/-- Waiting for the timer is a run. -/
theorem reaches_settle
    {w : Watch} (h : w.phase = .idle) :
    Reaches w w.settle := by
  obtain ⟨hevents, hidle⟩ := reaches_takeEvents h
  generalize hv : w.takeEvents = v at hevents hidle
  have hexpire : Reaches v v.expire ∧ v.expire.phase = .idle := by
    rw [expire]
    split
    · rename_i hrunning
      have hstep := Step.expire hrunning
      rw [expire, if_pos hrunning] at hstep
      exact ⟨.single hstep, hidle⟩
    · exact ⟨.refl, hidle⟩
  have htick : Reaches v.expire v.expire.takeTick ∧
      (v.expire.takeTick.phase = .idle ∨
        v.expire.takeTick.phase = .listing) := by
    rw [takeTick]
    split
    · rename_i hticked
      have hstep := Step.takeTick hexpire.2 hticked
      rw [takeTick, if_pos hticked] at hstep
      exact ⟨.single hstep, Or.inr rfl⟩
    · exact ⟨.refl, Or.inl hexpire.2⟩
  have hreaches := (hevents.trans hexpire.1).trans htick.1
  rw [settle, hv]
  rcases htick.2 with hphase | hphase
  · simpa [hphase] using hreaches
  · simpa [hphase] using hreaches.trans (reaches_rebuild hphase)

/-- A scheduled change that replaces a file, with the events and the build that
follow it, is a run. -/
theorem reaches_perform
    {w : Watch} (h : w.phase = .idle) {path : Text} {dir : Location}
    {name : Text} (hreplaceable : w.Replaceable path dir name)
    (hname : Asset.isMinified name = false) (data : Text) (settles : Bool) :
    Reaches w (w.perform ⟨.write path data, settles⟩) := by
  have hchange : Reaches w (w.change (.write path data)) :=
    .single (.replace data hreplaceable hname)
  have hidle : (w.change (.write path data)).phase = .idle := by
    rw [change_write hreplaceable]
    exact h
  obtain ⟨hevents, hidle⟩ := reaches_takeEvents hidle
  rw [perform]
  split
  · exact (hchange.trans hevents).trans (reaches_settle hidle)
  · exact hchange.trans hevents

end Watch

end AssetMinifier
