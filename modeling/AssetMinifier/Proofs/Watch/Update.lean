import AssetMinifier.Proofs.Build.Outcome
import AssetMinifier.Proofs.Watch.Step

/-!
# No update is lost

Whenever the copy of a source is not what the source as it is now would give,
something is left to do: an event on a source is queued, the timer is running
or ran out, or the build that is going on has yet to come to that source,
unless the last build failed.  So once nothing is left to do and the last
build went well, every source has its copy.
-/

namespace AssetMinifier

open FileSystem

/-! ## Current copies -/

/-- The copy of a source is there and holds what the source gives now. -/
def IsCurrent (b : Builder) (fs : FileSystem) (source : Text) : Prop :=
  ∃ c : Copy b fs, c.source = source ∧
    fs.node? c.location = some (.file c.output)

namespace IsCurrent

variable {b : Builder} {fs fs' : FileSystem} {source : Text}

theorem contents?_target
    (hlinks : fs.isLinkFree) (h : IsCurrent b fs source) :
    ∃ content output, fs.read source = .ok content ∧
      b.engine.minify (Kind.ofPath source) content = .ok output ∧
      fs.contents? (Asset.target source) = some output := by
  obtain ⟨c, rfl, hnode⟩ := h
  obtain ⟨-, -, -, hresolve⟩ := c.exists_dir hlinks
  exact ⟨c.content, c.output, c.read_source, c.minify_content,
    contents?_eq_some_iff.mpr ⟨c.location, hresolve, hnode⟩⟩

/-- A copy stays current if nothing but other copies or files that are no
sources change. -/
theorem congr
    (hsame : SameSources fs fs') (h : IsCurrent b fs source)
    (hnode : ∀ c : Copy b fs, fs.node? c.location = some (.file c.output) →
      fs'.node? c.location = some (.file c.output)) :
    IsCurrent b fs' source := by
  obtain ⟨c, hsource, hcurrent⟩ := h
  exact ⟨c.transfer hsame, hsource, hnode c hcurrent⟩

end IsCurrent

theorem Copy.location_ne
    {b : Builder} {fs : FileSystem} (hlinks : fs.isLinkFree) (c : Copy b fs)
    (dir : Location) {name : Text} (hname : Asset.isMinified name = false) :
    c.location ≠ dir ++ [name] := by
  obtain ⟨into, -, hlocation, -⟩ := c.exists_dir hlinks
  intro heq
  rw [hlocation] at heq
  obtain ⟨-, hlast⟩ := List.append_inj' heq rfl
  have hminified := Asset.isMinified_target_leaf c.isSource
  rw [List.singleton_inj.mp hlast, hname] at hminified
  cases hminified

/-- A copy that was made is current, and those that were current still are:
one in the same place is a copy of the same file. -/
theorem Copy.isCurrent_put
    {b : Builder} {fs : FileSystem} (hlinks : fs.isLinkFree) (c : Copy b fs)
    {source : Text} (h : source = c.source ∨ IsCurrent b fs source) :
    IsCurrent b (fs.put c.location (.file c.output)) source := by
  have hsame := c.sameSources_put (.refl hlinks) c.output
  rcases h with rfl | h
  · exact ⟨c.transfer hsame, rfl, c.node?_put_location fs _⟩
  · refine h.congr hsame fun d hnode => ?_
    by_cases hlocation : d.location = c.location
    · rw [hlocation, d.output_eq_of_location_eq hlinks hlocation]
      exact c.node?_put_location fs _
    · rw [node?_put_of_ne fs hlocation]
      exact hnode

theorem Builder.isCurrent_minifyFile
    {b : Builder} {fs : FileSystem} (hlinks : fs.isLinkFree)
    (hwrites : b.config.dryRun = false)
    {minified : Text} (hminified : Asset.isSource minified)
    (herror : (b.minifyFile fs minified).error = none) {source : Text}
    (h : source = minified ∨ IsCurrent b fs source) :
    IsCurrent b (b.minifyFile fs minified).fileSystem source := by
  obtain ⟨c, rfl, -, hattempt⟩ :=
    exists_copy_of_error_eq_none (.refl hlinks) hwrites hminified herror
  rw [hattempt]
  exact c.isCurrent_put hlinks h

namespace Watch

/-! ## What is left to do -/

/-- A build is bound to start. -/
inductive Armed (w : Watch) : Prop
  | queued {path : Text} :
      path ∈ w.queue → Asset.isSource path → Armed w
  | running : w.running = true → Armed w
  | ticked : w.ticked = true → Armed w

theorem Armed.mono
    {w v : Watch} (h : Armed w)
    (hqueue : ∀ path ∈ w.queue, path ∈ v.queue)
    (hrunning : v.running = w.running) (hticked : v.ticked = w.ticked) :
    Armed v := by
  cases h with
  | queued hmem hpath => exact .queued (hqueue _ hmem) hpath
  | running h => exact .running (hrunning.trans h)
  | ticked h => exact .ticked (hticked.trans h)

/-- The build that is going on has yet to come to a source.  A build that
failed may have left out any. -/
def LeftOut (w : Watch) (source : Text) : Prop :=
  match w.phase with
  | .idle => w.error ≠ none
  | .listing => True
  | .minifying sources => source ∈ sources

/-- Every copy that is not current is left to be made. -/
structure Sound (b : Builder) (w : Watch) : Prop where
  builder_eq : w.builder = b
  linkFree : w.fileSystem.isLinkFree
  isSource : ∀ sources, w.phase = .minifying sources →
    ∀ source ∈ sources, Asset.isSource source
  current : Armed w ∨ ∀ source ∈ b.discover w.fileSystem,
    IsCurrent b w.fileSystem source ∨ LeftOut w source

namespace Sound

variable {b : Builder} {w : Watch}

theorem opened
    {fs : FileSystem} (hlinks : fs.isLinkFree) (b : Builder) :
    Sound b (opened b fs) where
  builder_eq := rfl
  linkFree := hlinks
  isSource := fun _ hphase => Phase.noConfusion hphase
  current := Or.inr fun _ _ => Or.inr trivial

theorem replace
    (h : Sound b w) {path : Text} {dir : Location} {name : Text}
    (hreplaceable : w.Replaceable path dir name)
    (hname : Asset.isMinified name = false) (data : Text) :
    Sound b (w.change (.write path data)) := by
  have hdirectories := sameDirectories_put_file h.linkFree
    hreplaceable.node?_ne data
  rw [change_write hreplaceable]
  refine ⟨h.builder_eq, hdirectories.linkFree_right, h.isSource, ?_⟩
  cases hsource : Asset.isSource name with
  | true =>
      -- The event is about a source, whichever sources there are now.
      have hevent := Asset.isSource_of_leaf_eq
        (Path.leaf_ofSegments_concat true dir name) hsource
      exact Or.inl (.queued (List.mem_append_right _
        (List.mem_singleton_self _)) hevent)
  | false =>
      have hsame := sameSources_put_file h.linkFree hreplaceable.node?_ne
        (by rwa [namesSource_concat]) data
      -- The file is neither a source nor, by its name, a copy.
      rcases h.current with harmed | hcurrent
      · exact Or.inl (harmed.mono
          (fun _ hmem => List.mem_append_left _ hmem) rfl rfl)
      · refine Or.inr fun source hmem => ?_
        rw [← Builder.discover_eq hsame] at hmem
        refine (hcurrent source hmem).imp_left fun hsource => ?_
        refine hsource.congr hsame fun c hnode => ?_
        rw [node?_put_of_ne _ (c.location_ne h.linkFree dir hname)]
        exact hnode

theorem takeEvent
    (h : Sound b w) :
    Sound b w.takeEvent := by
  cases hqueue : w.queue with
  | nil => rwa [Watch.takeEvent, hqueue]
  | cons path queue =>
      rw [takeEvent_cons hqueue]
      refine ⟨h.builder_eq, h.linkFree, h.isSource, ?_⟩
      refine h.current.imp_left fun harmed => ?_
      cases harmed with
      | running hrunning => exact .running (by simp [hrunning])
      | ticked hticked => exact .ticked hticked
      | queued hmem hpath =>
          rw [hqueue] at hmem
          rcases List.mem_cons.mp hmem with rfl | hmem
          · exact .running (by simp [hpath])
          · exact .queued hmem hpath

theorem expire
    (h : Sound b w) (hrunning : w.running = true) :
    Sound b w.expire := by
  rw [Watch.expire, if_pos hrunning]
  exact ⟨h.builder_eq, h.linkFree, h.isSource, Or.inl (.ticked rfl)⟩

theorem takeTick
    (h : Sound b w) (hticked : w.ticked = true) :
    Sound b w.takeTick := by
  rw [Watch.takeTick, if_pos hticked]
  exact ⟨h.builder_eq, h.linkFree, fun _ hphase => Phase.noConfusion hphase,
    Or.inr fun _ _ => Or.inr trivial⟩

theorem advance
    (h : Sound b w) (hwrites : b.config.dryRun = false)
    (hphase : w.phase ≠ .idle) :
    Sound b w.advance := by
  obtain ⟨rfl, hlinks, hsources, hcurrent⟩ := h
  obtain ⟨hbuilder, hqueue, hrunning, hticked⟩ := w.advance_frame
  have hadvanced := advanced_advance hphase
  generalize w.advance = v at hbuilder hqueue hrunning hticked hadvanced ⊢
  have harmed : Armed w → Armed v :=
    fun harmed => harmed.mono (by simp [hqueue]) hrunning hticked
  generalize hfs : v.fileSystem = fs, hv : v.phase = phase,
    he : v.error = error at hadvanced
  cases hadvanced with
  | listed hlisting =>
      refine ⟨hbuilder, by rwa [hfs], ?_, Or.inr ?_⟩
      · intro sources heq source hsource
        rw [hv] at heq
        cases heq
        exact Builder.isSource_of_mem_discover hsource
      · intro source hsource
        rw [hfs] at hsource
        exact Or.inr (by rwa [LeftOut, hv])
  | ended hminifying =>
      refine ⟨hbuilder, by rwa [hfs], by simp [hv], ?_⟩
      rw [hfs]
      refine hcurrent.imp harmed fun hcurrent source hsource => ?_
      refine (hcurrent source hsource).imp_right fun hleft => ?_
      rw [LeftOut, hminifying] at hleft
      cases hleft
  | @failed source rest e hminifying herror =>
      -- The copy of this source may be cut short, but the build has failed.
      have hsource := hsources _ hminifying source (by simp)
      have hsame := Builder.sameSources_minifyFile hlinks w.builder hsource
      refine ⟨hbuilder, hfs ▸ hsame.linkFree_right, by simp [hv], Or.inr ?_⟩
      exact fun _ _ => Or.inr (by simp [LeftOut, hv, he])
  | @minified source rest hminifying herror =>
      -- Others may have replaced this source since it was listed, but what is
      -- copied now is what it holds now.
      have hrest := hsources _ hminifying
      have hsource := hrest source (by simp)
      have hsame := Builder.sameSources_minifyFile hlinks w.builder hsource
      have hcopied : ∀ {s : Text},
          s = source ∨ IsCurrent w.builder w.fileSystem s →
            IsCurrent w.builder v.fileSystem s := by
        intro s hs
        rw [hfs]
        exact Builder.isCurrent_minifyFile hlinks hwrites hsource herror hs
      refine ⟨hbuilder, hfs ▸ hsame.linkFree_right, ?_, ?_⟩
      · intro sources heq s hs
        rw [hv] at heq
        cases heq
        exact hrest s (List.mem_cons_of_mem _ hs)
      · refine hcurrent.imp harmed fun hcurrent s hs => ?_
        rw [hfs, ← Builder.discover_eq hsame] at hs
        rcases hcurrent s hs with hold | hleft
        · exact Or.inl (hcopied (Or.inr hold))
        · rw [LeftOut, hminifying] at hleft
          rcases List.mem_cons.mp hleft with hfirst | hleft
          · exact Or.inl (hcopied (Or.inl hfirst))
          · exact Or.inr (by rwa [LeftOut, hv])

theorem step
    (h : Sound b w) (hwrites : b.config.dryRun = false)
    {w' : Watch} (hstep : Step w w') :
    Sound b w' := by
  cases hstep with
  | replace data hreplaceable hname => exact h.replace hreplaceable hname data
  | takeEvent => exact h.takeEvent
  | expire hrunning => exact h.expire hrunning
  | takeTick _ hticked => exact h.takeTick hticked
  | advance hphase => exact h.advance hwrites hphase

theorem reaches
    (h : Sound b w) (hwrites : b.config.dryRun = false)
    {w' : Watch} (hreaches : Reaches w w') :
    Sound b w' := by
  induction hreaches with
  | refl => exact h
  | tail _ hstep ih => exact ih.step hwrites hstep

end Sound

/-! ## Rest -/

/-- Nothing is left to do. -/
structure AtRest (w : Watch) : Prop where
  queue_eq : w.queue = []
  running_eq : w.running = false
  ticked_eq : w.ticked = false
  phase_eq : w.phase = .idle

theorem AtRest.not_armed
    {w : Watch} (h : AtRest w) :
    ¬ Armed w := by
  intro harmed
  cases harmed with
  | queued hmem _ =>
      rw [h.queue_eq] at hmem
      cases hmem
  | running hrunning =>
      rw [h.running_eq] at hrunning
      cases hrunning
  | ticked hticked =>
      rw [h.ticked_eq] at hticked
      cases hticked

/-- Whatever others replaced in the watched directories, and whenever they did:
once nothing is left to do and the last build went well, every source has a
copy that holds what the source gives as it is now. -/
theorem target_holds_of_atRest
    (b : Builder) (fs : FileSystem)
    (hlinks : fs.isLinkFree) (hwrites : b.config.dryRun = false)
    {w : Watch} (hreaches : Reaches (opened b fs) w)
    (hrest : AtRest w) (herror : w.error = none) :
    ∀ source ∈ b.discover w.fileSystem, ∃ content output,
      w.fileSystem.read source = .ok content ∧
      b.engine.minify (Kind.ofPath source) content = .ok output ∧
      w.fileSystem.contents? (Asset.target source) = some output := by
  have hsound := (Sound.opened hlinks b).reaches hwrites hreaches
  have hcurrent := hsound.current.resolve_left hrest.not_armed
  intro source hsource
  refine ((hcurrent source hsource).resolve_right ?_).contents?_target
    hsound.linkFree
  rw [LeftOut, hrest.phase_eq]
  exact fun hne => hne herror

/-- The state of watching `plainSite` when its stylesheet was replaced just
after the first build had made the copy, and nothing is left to do. -/
def overtaken : Watch :=
  let w := advanceMany 2 (opened (plainBuilder "/s") plainSite)
  (advanceMany 2 (w.change (.write "/s/css/a.css" "b { }"))).settle

theorem target_holds_of_atRest_overtaken :
    Reaches (opened (plainBuilder "/s") plainSite) overtaken ∧ AtRest overtaken ∧
      overtaken.error = none ∧
      overtaken.fileSystem.contents? "/s/css/a.min.css" = some "b{}" := by
  have hreplaceable :
      (advanceMany 2 (opened (plainBuilder "/s") plainSite)).Replaceable
        "/s/css/a.css" ["s", "css"] "a.css" :=
    ⟨by decide +kernel, by decide +kernel, by decide +kernel,
      by decide +kernel⟩
  have hreaches : Reaches (opened (plainBuilder "/s") plainSite) overtaken :=
    (((reaches_advanceMany 2 _).tail
      (.replace "b { }" hreplaceable (by decide +kernel))).trans
        (reaches_advanceMany 2 _)).trans
          (reaches_settle (by decide +kernel))
  have hrest : AtRest overtaken :=
    ⟨by decide +kernel, by decide +kernel, by decide +kernel,
      by decide +kernel⟩
  have herror : overtaken.error = none := by decide +kernel
  obtain ⟨content, output, hread, hminify, htarget⟩ :=
    target_holds_of_atRest (plainBuilder "/s") plainSite (by decide) rfl hreaches
      hrest herror "/s/css/a.css" (by decide +kernel)
  have hcontent : overtaken.fileSystem.read "/s/css/a.css" = .ok "b { }" := by
    decide +kernel
  have houtput : (plainBuilder "/s").engine.minify (Kind.ofPath "/s/css/a.css")
      "b { }" = .ok "b{}" := by
    decide +kernel
  rw [hcontent] at hread
  cases hread
  rw [houtput] at hminify
  cases hminify
  exact ⟨hreaches, hrest, herror, htarget⟩

end Watch

end AssetMinifier
