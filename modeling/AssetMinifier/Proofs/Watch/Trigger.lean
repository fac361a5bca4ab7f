import AssetMinifier.Proofs.Build.Outcome
import AssetMinifier.Proofs.Watch.Step
import Mathlib.Data.Nat.Nth

/-!
# Builds do not trigger builds

A build writes into the directories that are watched, so its own copies are
reported as events, any number of times and at any time later.  Here every event
in the queue carries its cause, and the steps of a run are counted.  No event
that a build caused is about a source, so each build but the first is paid for
by an event that others caused.
-/

namespace AssetMinifier.Watch

open FileSystem

/-! ## Events and their causes -/

/-- Who caused an event. -/
inductive Cause where
  | others
  | build
  deriving DecidableEq, Repr

/-- An event on a path. -/
structure Event where
  path : Text
  cause : Cause
  deriving DecidableEq, Repr

/-- Whether an event tells that others changed a source. -/
def Event.isSourceChange (e : Event) : Bool :=
  e.cause = .others && Asset.isSource e.path

/-- A state of watching in which the cause of each queued event is known. -/
structure Traced where
  watch : Watch
  events : List Event
  /-- The paths of files that builds wrote. -/
  written : Set Text
  queue_eq : watch.queue = events.map Event.path

/-- Whether taking the next event starts the timer anew: a timer that stands
still runs afterwards. -/
def resetsTimer (w : Watch) : Bool :=
  { w with running := false }.takeEvent.running

/-- The next step of the build writes a copy to a file with the name that a path
has. -/
structure Writes (w : Watch) (path : Text) : Prop where
  dryRun_eq : w.builder.config.dryRun = false
  exists_target : ∃ source rest content output l,
    w.phase = .minifying (source :: rest) ∧
    w.fileSystem.read source = .ok content ∧
    w.builder.engine.minify (Kind.ofPath source) content = .ok output ∧
    w.fileSystem.resolve .file (Asset.target source) = .ok l ∧
    l.getLast? = some (Path.leaf path)

theorem queue_takeEvent
    (w : Watch) :
    w.takeEvent.queue = w.queue.tail := by
  cases hqueue : w.queue with
  | nil => rw [takeEvent, hqueue, hqueue, List.tail_nil]
  | cons path queue => rw [takeEvent_cons hqueue, List.tail_cons]

theorem queue_expire
    (w : Watch) :
    w.expire.queue = w.queue := by
  rw [expire]
  split
  · rfl
  · rfl

theorem queue_takeTick
    (w : Watch) :
    w.takeTick.queue = w.queue := by
  rw [takeTick]
  split
  · rfl
  · rfl

theorem expire_of_running
    {w : Watch} (h : w.running = true) :
    w.expire = { w with running := false, ticked := true } := by
  rw [expire, if_pos h]

theorem takeTick_of_ticked
    {w : Watch} (h : w.ticked = true) :
    w.takeTick =
      { w with
        ticked := false
        phase := .listing
        output := w.output ++ Message.newline } := by
  rw [takeTick, if_pos h, print]

theorem isSource_of_phase_advance
    {w : Watch} (hphase : w.phase ≠ .idle)
    (hsources : ∀ sources, w.phase = .minifying sources →
      ∀ source ∈ sources, Asset.isSource source)
    {sources : List Text} (h : w.advance.phase = .minifying sources)
    {source : Text} (hmem : source ∈ sources) :
    Asset.isSource source := by
  have hadvanced := advanced_advance hphase
  rw [h] at hadvanced
  generalize w.advance.fileSystem = fs, w.advance.error = error at hadvanced
  cases hadvanced with
  | listed => exact Builder.isSource_of_mem_discover hmem
  | minified hminifying herror =>
      exact hsources _ hminifying source (List.mem_cons_of_mem _ hmem)

theorem isLinkFree_advance
    {w : Watch} (hphase : w.phase ≠ .idle) (hlinks : w.fileSystem.isLinkFree)
    (hsources : ∀ sources, w.phase = .minifying sources →
      ∀ source ∈ sources, Asset.isSource source) :
    w.advance.fileSystem.isLinkFree := by
  have hadvanced := advanced_advance hphase
  generalize w.advance.fileSystem = fs, w.advance.phase = phase,
    w.advance.error = error at hadvanced ⊢
  have hminify : ∀ source rest, w.phase = .minifying (source :: rest) →
      (w.builder.minifyFile w.fileSystem source).fileSystem.isLinkFree := by
    intro source rest hminifying
    have hsource := hsources _ hminifying source List.mem_cons_self
    exact (Builder.sameSources_minifyFile hlinks w.builder
      hsource).linkFree_right
  cases hadvanced with
  | listed => exact hlinks
  | ended => exact hlinks
  | failed hminifying herror => exact hminify _ _ hminifying
  | minified hminifying herror => exact hminify _ _ hminifying

namespace Traced

/-! ## Steps that are counted -/

/-- The state before the first build. -/
def opened (b : Builder) (fs : FileSystem) : Traced where
  watch := Watch.opened b fs
  events := []
  written := ∅
  queue_eq := rfl

/-- Others leave another file system and other directories to watch, and events
on paths are queued. -/
def change (s : Traced) (fs : FileSystem) (watched : List Location)
    (paths : List Text) : Traced where
  watch :=
    { s.watch with
      fileSystem := fs
      watched := watched
      queue := s.watch.queue ++ paths }
  events := s.events ++ paths.map (Event.mk · .others)
  written := s.written
  queue_eq := by simp [s.queue_eq, Function.comp_def]

/-- The loop takes the next event. -/
def takeEvent (s : Traced) : Traced where
  watch := s.watch.takeEvent
  events := s.events.tail
  written := s.written
  queue_eq := by rw [queue_takeEvent, s.queue_eq, List.map_tail]

/-- The timer runs out. -/
def expire (s : Traced) : Traced where
  watch := s.watch.expire
  events := s.events
  written := s.written
  queue_eq := by rw [queue_expire, s.queue_eq]

/-- The loop notices that the timer ran out. -/
def takeTick (s : Traced) : Traced where
  watch := s.watch.takeTick
  events := s.events
  written := s.written
  queue_eq := by rw [queue_takeTick, s.queue_eq]

/-- An event on a file that a build wrote is queued. -/
def report (s : Traced) (path : Text) : Traced where
  watch := { s.watch with queue := s.watch.queue ++ [path] }
  events := s.events ++ [⟨path, .build⟩]
  written := s.written
  queue_eq := by simp [s.queue_eq]

/-- The build goes on by a step. -/
def advance (s : Traced) : Traced where
  watch := s.watch.advance
  events := s.events
  written := s.written ∪ {path | s.watch.Writes path}
  queue_eq := by rw [s.watch.advance_frame.2.1, s.queue_eq]

theorem watch_takeEvent (s : Traced) : s.takeEvent.watch = s.watch.takeEvent :=
  rfl

theorem watch_expire (s : Traced) : s.expire.watch = s.watch.expire :=
  rfl

theorem watch_takeTick (s : Traced) : s.takeTick.watch = s.watch.takeTick :=
  rfl

theorem watch_advance (s : Traced) : s.advance.watch = s.watch.advance :=
  rfl

theorem queue_of_head
    {s : Traced} {e : Event} (h : s.events.head? = some e) :
    s.watch.queue = e.path :: s.events.tail.map Event.path := by
  rw [s.queue_eq, ← List.map_cons, List.cons_head?_tail h]

/-- What is done in a step. -/
inductive Act where
  /-- Others change something. -/
  | change
  /-- The loop takes an event. -/
  | take (e : Event)
  /-- The timer runs out. -/
  | expire
  /-- The loop notices that the timer ran out, and a build starts. -/
  | rebuild
  /-- An event is queued that a build caused. -/
  | report
  /-- A build goes on. -/
  | advance
  deriving DecidableEq, Repr

/-- One step of watching.  Events on files that were written by builds may be
queued at any time, and again and again. -/
inductive Step (s : Traced) : Act → Traced → Prop
  | change (fs : FileSystem) (watched : List Location) (paths : List Text) :
      fs.isLinkFree → Step s .change (s.change fs watched paths)
  | take {e : Event} :
      s.watch.phase = .idle → s.events.head? = some e →
      Step s (.take e) s.takeEvent
  | expire : s.watch.running = true → Step s .expire s.expire
  | rebuild :
      s.watch.phase = .idle → s.watch.ticked = true →
      Step s .rebuild s.takeTick
  | report {path : Text} : path ∈ s.written → Step s .report (s.report path)
  | advance : s.watch.phase ≠ .idle → Step s .advance s.advance

/-- A run does one thing after another. -/
inductive Run : Traced → List Act → Traced → Prop
  | nil {s : Traced} : Run s [] s
  | cons {s t u : Traced} {a : Act} {acts : List Act} :
      Step s a t → Run t acts u → Run s (a :: acts) u

/-- Whether an event is taken that tells that others changed a source. -/
def Act.takesSourceChange : Act → Bool
  | take e => e.isSourceChange
  | _ => false

/-- How many builds are started. -/
def rebuilds (acts : List Act) : Nat :=
  acts.count .rebuild

/-- How many events are taken that tell that others changed a source. -/
def sourceChanges (acts : List Act) : Nat :=
  acts.countP Act.takesSourceChange

/-! ## Events of builds are not about sources -/

/-- Builds minify sources, and what they wrote and what is reported of it is
none. -/
structure Guarded (s : Traced) : Prop where
  linkFree : s.watch.fileSystem.isLinkFree
  isSource : ∀ sources, s.watch.phase = .minifying sources →
    ∀ source ∈ sources, Asset.isSource source
  notSource_written : ∀ path ∈ s.written, Asset.isSource path = false
  notSource : ∀ e ∈ s.events, e.cause = .build → Asset.isSource e.path = false

namespace Guarded

variable {s : Traced}

theorem opened
    {fs : FileSystem} (hlinks : fs.isLinkFree) (b : Builder) :
    Guarded (opened b fs) where
  linkFree := hlinks
  isSource := fun _ hphase => Phase.noConfusion hphase
  notSource_written := fun _ hmem => absurd hmem (Set.notMem_empty _)
  notSource := fun _ hmem => absurd hmem List.not_mem_nil

theorem change
    (h : Guarded s) {fs : FileSystem} (hlinks : fs.isLinkFree)
    (watched : List Location) (paths : List Text) :
    Guarded (s.change fs watched paths) where
  linkFree := hlinks
  isSource := h.isSource
  notSource_written := h.notSource_written
  notSource := by
    intro e hmem hcause
    rcases List.mem_append.mp hmem with hold | hnew
    · exact h.notSource e hold hcause
    · obtain ⟨path, -, rfl⟩ := List.mem_map.mp hnew
      cases hcause

theorem takeEvent
    (h : Guarded s) {e : Event} (hhead : s.events.head? = some e) :
    Guarded s.takeEvent := by
  refine ⟨?_, ?_, h.notSource_written,
    fun q hmem => h.notSource q (List.mem_of_mem_tail hmem)⟩
  · rw [watch_takeEvent, takeEvent_cons (queue_of_head hhead)]
    exact h.linkFree
  · rw [watch_takeEvent, takeEvent_cons (queue_of_head hhead)]
    exact h.isSource

theorem expire
    (h : Guarded s) (hrunning : s.watch.running = true) :
    Guarded s.expire := by
  refine ⟨?_, ?_, h.notSource_written, h.notSource⟩
  · rw [watch_expire, expire_of_running hrunning]
    exact h.linkFree
  · rw [watch_expire, expire_of_running hrunning]
    exact h.isSource

theorem takeTick
    (h : Guarded s) (hticked : s.watch.ticked = true) :
    Guarded s.takeTick := by
  refine ⟨?_, ?_, h.notSource_written, h.notSource⟩
  · rw [watch_takeTick, takeTick_of_ticked hticked]
    exact h.linkFree
  · rw [watch_takeTick, takeTick_of_ticked hticked]
    exact fun _ hphase => Phase.noConfusion hphase

theorem report
    (h : Guarded s) {path : Text} (hpath : path ∈ s.written) :
    Guarded (s.report path) where
  linkFree := h.linkFree
  isSource := h.isSource
  notSource_written := h.notSource_written
  notSource := by
    intro e hmem hcause
    rcases List.mem_append.mp hmem with hold | hnew
    · exact h.notSource e hold hcause
    · rw [List.mem_singleton.mp hnew]
      exact h.notSource_written path hpath

/-- What a build writes is not named like a source. -/
theorem isSource_of_writes
    (h : Guarded s) {path : Text} (hwrites : s.watch.Writes path) :
    Asset.isSource path = false := by
  obtain ⟨source, rest, content, output, l, hphase, hread, -, hresolve, hlast⟩ :=
    hwrites.exists_target
  have hsource := h.isSource _ hphase source List.mem_cons_self
  have hname := namesSource_of_resolve_target h.linkFree hsource
    (pathExists_of_read hread) hresolve
  rw [namesSource, hlast] at hname
  rw [← Bool.not_eq_true]
  intro hpath
  have hleaf := Asset.isSource_leaf (Asset.isProper_leaf_of_isSource hpath).1
  rw [← hleaf] at hpath
  exact absurd hpath (by simpa using hname)

theorem advance
    (h : Guarded s) (hphase : s.watch.phase ≠ .idle) :
    Guarded s.advance where
  linkFree := isLinkFree_advance hphase h.linkFree h.isSource
  isSource := fun _ hminifying _ hmem =>
    isSource_of_phase_advance hphase h.isSource hminifying hmem
  notSource_written := by
    rintro path (hold | hnew)
    · exact h.notSource_written path hold
    · exact h.isSource_of_writes hnew
  notSource := h.notSource

theorem step
    (h : Guarded s) {a : Act} {t : Traced} (hstep : Step s a t) :
    Guarded t := by
  cases hstep with
  | change fs watched paths hlinks => exact h.change hlinks watched paths
  | take _ hhead => exact h.takeEvent hhead
  | expire hrunning => exact h.expire hrunning
  | rebuild _ hticked => exact h.takeTick hticked
  | report hpath => exact h.report hpath
  | advance hphase => exact h.advance hphase

theorem run
    (h : Guarded s) {acts : List Act} {t : Traced} (hrun : Run s acts t) :
    Guarded t := by
  induction hrun with
  | nil => exact h
  | cons hstep _ ih => exact ih (h.step hstep)

/-- An event that a build caused does not start the timer. -/
theorem resetsTimer_of_build
    (h : Guarded s) {e : Event} (hhead : s.events.head? = some e)
    (hcause : e.cause = .build) :
    s.watch.resetsTimer = false := by
  have hsource := h.notSource e (List.mem_of_mem_head? hhead) hcause
  have hqueue : ({ s.watch with running := false } : Watch).queue =
      e.path :: s.events.tail.map Event.path :=
    queue_of_head hhead
  rw [resetsTimer, takeEvent_cons hqueue, hsource]
  rfl

end Guarded

/-! ## What is left to be built -/

/-- How many builds the timer may start as it is. -/
def pending (s : Traced) : Nat :=
  s.watch.running.toNat + s.watch.ticked.toNat

/-- How many of the queued events tell that others changed a source. -/
def queued (s : Traced) : Nat :=
  s.events.countP Event.isSourceChange

theorem rebuilds_cons
    (a : Act) (acts : List Act) :
    rebuilds (a :: acts) = rebuilds [a] + rebuilds acts := by
  rw [rebuilds, rebuilds, rebuilds, ← List.count_append, List.singleton_append]

theorem sourceChanges_cons
    (a : Act) (acts : List Act) :
    sourceChanges (a :: acts) = sourceChanges [a] + sourceChanges acts := by
  rw [sourceChanges, sourceChanges, sourceChanges, ← List.countP_append,
    List.singleton_append]

theorem sourceChanges_take
    (e : Event) :
    sourceChanges [.take e] = e.isSourceChange.toNat := by
  rw [sourceChanges, List.countP_singleton, Act.takesSourceChange]
  cases e.isSourceChange with
  | false => rfl
  | true => rfl

/-- An event that is about a source was caused by others. -/
theorem Guarded.isSourceChange_eq
    {s : Traced} (h : Guarded s) {e : Event} (hmem : e ∈ s.events) :
    e.isSourceChange = Asset.isSource e.path := by
  cases hcause : e.cause with
  | others => simp [Event.isSourceChange, hcause]
  | build =>
      rw [h.notSource e hmem hcause]
      simp [Event.isSourceChange, hcause]

/-- Each build uses up what the timer holds, and only a change of a source by
others adds to it. -/
theorem Guarded.rebuilds_step
    {s t : Traced} {a : Act} (h : Guarded s) (hstep : Step s a t) :
    rebuilds [a] + t.pending ≤ s.pending + sourceChanges [a] := by
  cases hstep with
  | change fs watched paths hlinks => exact Nat.le_of_eq (Nat.zero_add _)
  | @take e hphase hhead =>
      have hchange := h.isSourceChange_eq (List.mem_of_mem_head? hhead)
      have hnone : rebuilds [.take e] = 0 := rfl
      rw [sourceChanges_take, hchange, hnone, pending, pending,
        watch_takeEvent, takeEvent_cons (queue_of_head hhead)]
      cases Asset.isSource e.path with
      | false => exact Nat.le_of_eq (Nat.zero_add _)
      | true =>
          change 0 + (1 + s.watch.ticked.toNat) ≤
            s.watch.running.toNat + s.watch.ticked.toNat + 1
          omega
  | expire hrunning =>
      rw [pending, pending, watch_expire, expire_of_running hrunning, hrunning]
      change 0 + (0 + 1) ≤ 1 + s.watch.ticked.toNat + 0
      omega
  | rebuild hphase hticked =>
      rw [pending, pending, watch_takeTick, takeTick_of_ticked hticked, hticked]
      change 1 + (s.watch.running.toNat + 0) ≤ s.watch.running.toNat + 1 + 0
      omega
  | report hpath => exact Nat.le_of_eq (Nat.zero_add _)
  | advance hphase =>
      obtain ⟨-, -, hrunning, hticked⟩ := s.watch.advance_frame
      have hpending : s.advance.pending = s.pending := by
        rw [pending, pending, watch_advance, hrunning, hticked]
      rw [hpending]
      exact Nat.le_of_eq (Nat.zero_add _)

/-- While others change nothing, events of theirs are only taken. -/
theorem sourceChanges_step
    {s t : Traced} {a : Act} (hstep : Step s a t) (ha : a ≠ .change) :
    sourceChanges [a] + t.queued = s.queued := by
  cases hstep with
  | change => exact absurd rfl ha
  | @take e hphase hhead =>
      have htail : s.takeEvent.events = s.events.tail := rfl
      rw [sourceChanges_take, queued, queued, htail,
        ← List.cons_head?_tail hhead, List.tail_cons, List.countP_cons]
      cases e.isSourceChange with
      | false => exact Nat.zero_add _
      | true => exact Nat.add_comm _ _
  | expire hrunning => exact Nat.zero_add _
  | rebuild hphase hticked => exact Nat.zero_add _
  | @report path hpath =>
      have hqueued : (s.report path).queued = s.queued := by
        rw [queued, queued, Traced.report, List.countP_append]
        rfl
      rw [hqueued]
      exact Nat.zero_add _
  | advance hphase => exact Nat.zero_add _

/-! ## Runs -/

theorem Guarded.rebuilds_run
    {s t : Traced} {acts : List Act} (h : Guarded s) (hrun : Run s acts t) :
    rebuilds acts + t.pending ≤ s.pending + sourceChanges acts := by
  induction hrun with
  | nil => exact Nat.le_of_eq (Nat.zero_add _)
  | @cons s t u a acts hstep _ ih =>
      have hfirst := h.rebuilds_step hstep
      have hlater := ih (h.step hstep)
      rw [rebuilds_cons, sourceChanges_cons]
      omega

theorem sourceChanges_run
    {s t : Traced} {acts : List Act} (hrun : Run s acts t)
    (hquiet : .change ∉ acts) :
    sourceChanges acts + t.queued = s.queued := by
  induction hrun with
  | nil => exact Nat.zero_add _
  | @cons s t u a acts hstep _ ih =>
      rw [List.mem_cons, not_or] at hquiet
      have hfirst := sourceChanges_step hstep (Ne.symm hquiet.1)
      have hlater := ih hquiet.2
      rw [sourceChanges_cons]
      omega

/-- How many builds can still follow if others change nothing more. -/
def outstanding (s : Traced) : Nat :=
  s.pending + s.queued

theorem Guarded.rebuilds_le_outstanding
    {s t : Traced} {acts : List Act} (h : Guarded s) (hrun : Run s acts t)
    (hquiet : .change ∉ acts) :
    rebuilds acts ≤ s.outstanding := by
  have hrebuilds := h.rebuilds_run hrun
  have hchanges := sourceChanges_run hrun hquiet
  rw [outstanding]
  omega

theorem Run.append
    {s t u : Traced} {acts later : List Act} (hrun : Run s acts t)
    (hlater : Run t later u) :
    Run s (acts ++ later) u := by
  induction hrun with
  | nil => exact hlater
  | cons hstep _ ih => exact .cons hstep (ih hlater)

theorem run_of_steps
    {states : Nat → Traced} {acts : Nat → Act}
    (hsteps : ∀ n, Step (states n) (acts n) (states (n + 1))) (n : Nat) :
    Run (states 0) ((List.range n).map acts) (states n) := by
  induction n with
  | zero => exact .nil
  | succ n ih =>
      rw [List.range_succ, List.map_append]
      exact ih.append (.cons (hsteps n) .nil)

/-- A run that never ends, in which others change nothing, starts only finitely
many builds. -/
theorem Guarded.finite_rebuilds
    {states : Nat → Traced} {acts : Nat → Act} (h : Guarded (states 0))
    (hsteps : ∀ n, Step (states n) (acts n) (states (n + 1)))
    (hquiet : ∀ n, acts n ≠ .change) :
    {n | acts n = .rebuild}.Finite := by
  by_contra hinfinite
  -- The number of builds would take every value as the run goes on.
  obtain ⟨n, hn⟩ := Nat.surjective_count_of_infinite_setOfPred hinfinite
    ((states 0).outstanding + 1)
  have hcount : rebuilds ((List.range n).map acts) =
      Nat.count (fun n => acts n = .rebuild) n := by
    rw [rebuilds, List.count, List.countP_map, Nat.count]
    rfl
  have hnot : Act.change ∉ (List.range n).map acts := by
    intro hmem
    obtain ⟨k, -, hk⟩ := List.mem_map.mp hmem
    exact hquiet k hk
  have hle := h.rebuilds_le_outstanding (run_of_steps hsteps n) hnot
  rw [hcount, hn] at hle
  omega

/-- Builds do not trigger builds.  In every state that a run reaches, an event
that a build caused does not start the timer, and no more builds have followed
the first one than events were taken that tell of a change of a source by
others.  Once others change nothing more, the builds that follow are bounded by
what is outstanding, and they are finitely many if the run never ends. -/
theorem rebuilds_le_sourceChanges
    (b : Builder) (fs : FileSystem) (hlinks : fs.isLinkFree)
    {acts : List Act} {s : Traced} (hrun : Run (opened b fs) acts s) :
    (∀ e t, Step s (.take e) t → e.cause = .build →
      s.watch.resetsTimer = false) ∧
    rebuilds acts ≤ sourceChanges acts ∧
    (∀ later t, Run s later t → .change ∉ later →
      rebuilds later ≤ s.outstanding) ∧
    ∀ (states : Nat → Traced) (later : Nat → Act), states 0 = s →
      (∀ n, Step (states n) (later n) (states (n + 1))) →
      (∀ n, later n ≠ .change) → {n | later n = .rebuild}.Finite := by
  have hopened := Guarded.opened hlinks b
  have hguarded := hopened.run hrun
  refine ⟨?_, ?_, ?_, ?_⟩
  · intro e t hstep hcause
    cases hstep with
    | take _ hhead => exact hguarded.resetsTimer_of_build hhead hcause
  · have hrebuilds := hopened.rebuilds_run hrun
    have hpending : (opened b fs).pending = 0 := rfl
    rw [hpending] at hrebuilds
    omega
  · intro later t hlater hquiet
    exact hguarded.rebuilds_le_outstanding hlater hquiet
  · rintro states later rfl hsteps hquiet
    exact hguarded.finite_rebuilds hsteps hquiet

/-! ## A run -/

/-- A site with one stylesheet. -/
def loneSite : FileSystem where
  entries :=
    [(["s"], .directory), (["s", "css"], .directory),
      (["s", "css", "a.css"], .file "a { }")]
  workingDirectory := []

/-- A build of `loneSite` from start to end, in which the copy is reported. -/
def built (s : Traced) : Traced :=
  (s.advance.advance.report "/s/css/a.min.css").advance

theorem run_built
    {s : Traced} (hphase : s.watch.phase ≠ .idle)
    (hwrites : s.advance.watch.Writes "/s/css/a.min.css")
    (hlast : s.advance.advance.watch.phase ≠ .idle) :
    Run s [.advance, .advance, .report, .advance] (built s) := by
  have hminifying : s.advance.watch.phase ≠ .idle := by
    obtain ⟨source, rest, -, -, -, hphase, -⟩ := hwrites.exists_target
    rw [hphase]
    exact fun h => Phase.noConfusion h
  exact .cons (.advance hphase) (.cons (.advance hminifying)
    (.cons (.report (Or.inr hwrites)) (.cons (.advance hlast) .nil)))

/-- The state of watching `loneSite` when the stylesheet was replaced after the
first build. -/
def replaced : Traced :=
  let s := built (opened (plainBuilder "/s") loneSite)
  let w := s.watch.change (.write "/s/css/a.css" "b { }")
  s.change w.fileSystem w.watched ["/s/css/a.css"]

/-- The state when a second build has followed. -/
def rebuilt : Traced :=
  built replaced.takeEvent.takeEvent.expire.takeTick

/-- The event of the first copy does nothing, the one of the stylesheet starts
the second build, and the event of the second copy starts no third one. -/
theorem rebuilds_le_sourceChanges_rebuilt :
    loneSite.isLinkFree ∧ ∃ acts e t,
      Run (opened (plainBuilder "/s") loneSite) acts rebuilt ∧
      Step rebuilt (.take e) t ∧ e.cause = .build ∧
      rebuilt.watch.resetsTimer = false ∧
      rebuilds acts = 1 ∧ rebuilds acts ≤ sourceChanges acts ∧
      ∀ later t, Run rebuilt later t → .change ∉ later →
        rebuilds later = 0 := by
  have hlinks : loneSite.isLinkFree := by decide
  have hfirst : Run (opened (plainBuilder "/s") loneSite)
      [.advance, .advance, .report, .advance]
      (built (opened (plainBuilder "/s") loneSite)) := by
    refine run_built (by decide +kernel) ⟨rfl, "/s/css/a.css", [], "a { }",
      "a{}", ["s", "css", "a.min.css"], ?_⟩ (by decide +kernel)
    decide +kernel
  have hsecond : Run replaced.takeEvent.takeEvent.expire.takeTick
      [.advance, .advance, .report, .advance] rebuilt := by
    refine run_built (by decide +kernel) ⟨rfl, "/s/css/a.css", [], "b { }",
      "b{}", ["s", "css", "a.min.css"], ?_⟩ (by decide +kernel)
    decide +kernel
  have hbetween : Run (built (opened (plainBuilder "/s") loneSite))
      [.change, .take ⟨"/s/css/a.min.css", .build⟩,
        .take ⟨"/s/css/a.css", .others⟩, .expire, .rebuild]
      replaced.takeEvent.takeEvent.expire.takeTick := by
    refine .cons (.change _ _ _ (by decide +kernel)) (.cons (.take ?_ ?_)
      (.cons (.take ?_ ?_) (.cons (.expire ?_) (.cons (.rebuild ?_ ?_) .nil))))
    all_goals decide +kernel
  have hrun := (hfirst.append hbetween).append hsecond
  have hstep : Step rebuilt (.take ⟨"/s/css/a.min.css", .build⟩)
      rebuilt.takeEvent :=
    .take (by decide +kernel) (by decide +kernel)
  obtain ⟨hown, hle, hlater, -⟩ :=
    rebuilds_le_sourceChanges (plainBuilder "/s") loneSite hlinks hrun
  refine ⟨hlinks, _, _, _, hrun, hstep, rfl, hown _ _ hstep rfl, rfl, hle, ?_⟩
  intro later t hrest hquiet
  have houtstanding : rebuilt.outstanding = 0 := by decide +kernel
  have hzero := hlater later t hrest hquiet
  rw [houtstanding] at hzero
  exact Nat.le_zero.mp hzero

end Traced

end AssetMinifier.Watch
