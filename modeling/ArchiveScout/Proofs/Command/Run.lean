import ArchiveScout.Command.Run
import ArchiveScout.Proofs.Search.Lifecycle

/-!
# ArchiveScout.Proofs.Command.Run

**What runs come to.** A run gives a value and leaves a world behind, or it fails and leaves one
behind. For each way of putting runs together there is a lemma that says what a run that gives a
value has gone through, and for each part of a command too; for the parts that can fail before the
first archive there is a second one, for a run that fails.
-/

namespace ArchiveScout.Command

open ArchiveScout.Decode (Decoder Job Provider Report World archiveName jarProvider)
open ArchiveScout.Search (Request SearchOutcome Session)

namespace Run

variable {α β ε : Type} {first : Run α} {rest : α → Run β} {a a' : α} {b : β} {e e' : RunError}
  {wrap : ε → RunError} {given : Except ε α} {text archive : String} {work : Run α} {u : Unit}
  {w w' w'' : World}

/-- What a run comes to. -/
def result (run : Run α) (w : World) : Except RunError α × World := run.run w

/-- A run gives a value, and leaves a world behind. -/
def Gives (run : Run α) (w : World) (a : α) (w' : World) : Prop := run.result w = (.ok a, w')

/-- A run fails, and leaves a world behind. -/
def Fails (run : Run α) (w : World) (e : RunError) (w' : World) : Prop :=
  run.result w = (.error e, w')

theorem result_bind (first : Run α) (rest : α → Run β) (w : World) :
    (first >>= rest).result w = match first.result w with
      | (.ok a, w') => (rest a).result w'
      | (.error e, w') => (.error e, w') := by
  show (let (x, w') := first.result w; (ExceptT.bindCont rest x : StateM World _) w') = _
  cases first.result w with
  | mk x w' => cases x <;> rfl

/-- A run in two parts gives what the second part gives. -/
theorem gives_bind : Gives (first >>= rest) w b w'' ↔
    ∃ a w', Gives first w a w' ∧ Gives (rest a) w' b w'' := by
  rw [Gives, result_bind]
  constructor
  · intro h
    split at h
    · rename_i a w' hfirst
      exact ⟨a, w', hfirst, h⟩
    · exact absurd (congrArg Prod.fst h) (by simp)
  · rintro ⟨a, w', hfirst, hrest⟩
    rw [hfirst]
    exact hrest

/-- A run in two parts fails where one of them does. -/
theorem fails_bind : Fails (first >>= rest) w e w'' ↔
    Fails first w e w'' ∨ ∃ a w', Gives first w a w' ∧ Fails (rest a) w' e w'' := by
  rw [Fails, result_bind]
  constructor
  · intro h
    split at h
    · rename_i a w' hfirst
      exact .inr ⟨a, w', hfirst, h⟩
    · rename_i e' w' hfirst
      exact .inl (hfirst.trans (by simpa using h))
  · rintro (hfirst | ⟨a, w', hfirst, hrest⟩)
    · rw [hfirst]
    · rw [hfirst]
      exact hrest

theorem Gives.bind (hfirst : Gives first w a w') (hrest : Gives (rest a) w' b w'') :
    Gives (first >>= rest) w b w'' :=
  gives_bind.mpr ⟨a, w', hfirst, hrest⟩

theorem Fails.bind (hfirst : Fails first w e w') : Fails (first >>= rest) w e w' :=
  fails_bind.mpr (.inl hfirst)

/-- A run comes to one thing. -/
theorem Fails.unique (h : Fails work w e w') (h' : Fails work w e' w'') : e = e' ∧ w' = w'' := by
  have hsame := h.symm.trans h'
  simpa using hsame

/-- A run that is known to come to a value gives this value. -/
theorem gives_iff_of_result (h : work.result w = (.ok a, w'')) :
    Gives work w a' w' ↔ a' = a ∧ w' = w'' := by
  rw [Gives, h]
  simp [eq_comm]

theorem gives_pure : Gives (pure a) w a' w' ↔ a' = a ∧ w' = w := gives_iff_of_result rfl

theorem gives_get : Gives (get : Run World) w w'' w' ↔ w'' = w ∧ w' = w := gives_iff_of_result rfl

theorem gives_set : Gives (set w'' : Run Unit) w u w' ↔ w' = w'' :=
  (gives_iff_of_result rfl).trans (and_iff_right (Subsingleton.elim u ()))

theorem gives_write : Gives (Run.write text) w u w' ↔ w' = w.write text :=
  (gives_iff_of_result rfl).trans (and_iff_right (Subsingleton.elim u ()))

theorem gives_ofExcept : Gives (ofExcept wrap given) w a w' ↔ given = .ok a ∧ w' = w := by
  cases given with
  | ok value =>
      rw [ofExcept, gives_pure]
      simp [eq_comm]
  | error cause =>
      have h : (ofExcept wrap (.error cause) : Run α).result w = (.error (wrap cause), w) := rfl
      rw [Gives, h]
      simp

theorem gives_withArchive : Gives (withArchive archive work) w a w'' ↔
    ∃ w', Gives work (w.write s!"File: {archiveName archive}") a w' ∧ w'' = w'.write "" := by
  simp only [withArchive, gives_bind, gives_write, gives_pure]
  constructor
  · rintro ⟨_, _, rfl, _, w₁, hwork, _, _, rfl, rfl, rfl⟩
    exact ⟨w₁, hwork, rfl⟩
  · rintro ⟨w₁, hwork, rfl⟩
    exact ⟨(), _, rfl, a, w₁, hwork, (), _, rfl, rfl, rfl⟩

end Run

open Run

variable {s : Services} {o : SearchOptions} {session : Session} {request : Request}
  {archive : String} {files archives : List String} {w w' : World} {opener : Provider}
  {found : SearchOutcome} {generator generator' : Option Generator} {searches : List SearchOutcome}
  {reports : List Report} {e : RunError}

theorem gives_inputs : Gives (inputs files) w archives w' ↔
    File.expandInputs w.tree files = .ok archives ∧ w' = w := by
  simp [inputs, gives_bind, gives_get, gives_ofExcept, and_comm]

theorem gives_provider : Gives (provider s) w opener w' ↔ ∃ jar,
    s.cfr.resolve w.tree = (w'.tree, .ok jar) ∧ w' = { w with tree := w'.tree } ∧
      opener = jarProvider s.tools { jar } := by
  simp only [provider, gives_bind, gives_get, gives_set, gives_ofExcept, gives_pure]
  constructor
  · rintro ⟨_, _, ⟨rfl, rfl⟩, _, _, rfl, jar, _, ⟨hjar, rfl⟩, rfl, rfl⟩
    exact ⟨jar, Prod.ext rfl hjar, rfl, rfl⟩
  · rintro ⟨jar, hresolve, hw', rfl⟩
    refine ⟨w, w, ⟨rfl, rfl⟩, (), _, rfl, jar, _, ⟨?_, rfl⟩, rfl, ?_⟩
    · rw [hresolve]
    · rw [hresolve]
      exact hw'

/-- A decoder is new when its workers have started. -/
theorem gives_newDecoder {job : Job} {pauseInput : Bool} {dec : Decoder} :
    Gives (newDecoder s job pauseInput) w dec w' ↔
      s.startWorkers (max job.threads 1) = .ok () ∧ dec = .ofJob job pauseInput ∧ w' = w := by
  simp only [newDecoder, gives_bind, gives_ofExcept, gives_pure]
  constructor
  · rintro ⟨_, _, ⟨hstarted, rfl⟩, rfl, rfl⟩
    exact ⟨hstarted, rfl, rfl⟩
  · rintro ⟨hstarted, rfl, rfl⟩
    exact ⟨(), _, ⟨hstarted, rfl⟩, rfl, rfl⟩

theorem gives_searchArchive :
    Gives (searchArchive s { session with request := some request } archive) w found w' ↔
      found = (session.searchFor request s.engine w.tree archive).2 ∧
        w' = w.writeAll (session.searchFor request s.engine w.tree archive).1 := by
  have hsearch : ({ session with request := some request } : Session).search s.engine w.tree
      archive = .ok (session.searchFor request s.engine w.tree archive) := by
    rw [← session.searchFor_with_request (some request)]
    rfl
  simp only [searchArchive, gives_bind, gives_get, gives_set, gives_ofExcept, gives_pure]
  constructor
  · rintro ⟨_, _, ⟨rfl, rfl⟩, _, _, ⟨hfound, rfl⟩, _, _, rfl, rfl, rfl⟩
    obtain rfl := Except.ok.inj (hsearch.symm.trans hfound)
    exact ⟨rfl, rfl⟩
  · rintro ⟨rfl, rfl⟩
    exact ⟨w, w, ⟨rfl, rfl⟩, _, w, ⟨hsearch, rfl⟩, (), _, rfl, rfl, rfl⟩

theorem gives_decodeArchive {dec dec' : Decoder} {report : Report} :
    Gives (decodeArchive s opener dec archive) w (dec', report) w' ↔
      dec.decode opener s.prompt w archive = (report, dec', w') := by
  simp only [decodeArchive, gives_bind, gives_get, gives_set, gives_pure, and_assoc,
    exists_and_left, exists_eq_left, exists_const]
  -- What a pass does is no matter here.
  generalize dec.decode opener s.prompt w archive = pass
  obtain ⟨report', dec', w'⟩ := pass
  constructor
  · rintro ⟨hsame, rfl⟩
    obtain ⟨rfl, rfl⟩ := Prod.mk.inj hsame
    rfl
  · intro hsame
    simp only [Prod.mk.injEq] at hsame
    obtain ⟨rfl, rfl, rfl⟩ := hsame
    exact ⟨rfl, rfl⟩

/-- What generating comes to: nothing, if nothing was found or no sources are wanted, or a pass of
the decoder that is there, or else of a new one. -/
inductive Generating (s : Services) (o : SearchOptions) (generator : Option Generator)
    (found : SearchOutcome) (w : World) : Option Generator → List Report → World → Prop
  | nothing (hnone : o.genSources = false ∨ found.results = []) :
      Generating s o generator found w generator [] w
  | pass (g : Generator) (before after : World) (dec : Decoder) (report : Report)
      (hgenerator : generator = some g ∧ before = w ∨
        Gives (provider s) w g.opener before ∧ g.decoder = .ofJob (sourceJob s o) false)
      (hwanted : o.genSources = true) (hresults : found.results ≠ [])
      (hpass : (g.decoder.withSourceFilter (.ofResults found.results)).decode g.opener s.prompt
        (before.write "Generating sources...") found.file = (report, dec, after)) :
      Generating s o generator found w (some { g with decoder := dec }) [report] after

/-- The decoder that is there goes on, or a new one is made. -/
theorem gives_generator {β : Type} {b : β} {rest : Generator → Run β}
    (h : Gives (match generator with
      | some g => do rest (← pure g)
      | none => do
        let opener ← provider s
        let decoder ← newDecoder s (sourceJob s o) false
        rest (← pure { opener, decoder })) w b w') :
    ∃ g before, (generator = some g ∧ before = w ∨
        Gives (provider s) w g.opener before ∧ g.decoder = .ofJob (sourceJob s o) false) ∧
      Gives (rest g) before b w' := by
  cases generator with
  | some g =>
      obtain ⟨g', before, hg, h⟩ := gives_bind.mp h
      obtain ⟨rfl, rfl⟩ := gives_pure.mp hg
      exact ⟨_, _, .inl ⟨rfl, rfl⟩, h⟩
  | none =>
      obtain ⟨opener, before, hopener, hstarting⟩ := gives_bind.mp h
      obtain ⟨dec, _, hnew, hrest⟩ := gives_bind.mp hstarting
      obtain ⟨-, rfl, rfl⟩ := gives_newDecoder.mp hnew
      obtain ⟨g, _, hg, hrest⟩ := gives_bind.mp hrest
      obtain ⟨rfl, rfl⟩ := gives_pure.mp hg
      exact ⟨_, _, .inr ⟨hopener, rfl⟩, hrest⟩

theorem generating_of_gives (h : Gives (generate s o generator found) w (generator', reports) w') :
    Generating s o generator found w generator' reports w' := by
  rw [generate] at h
  split at h
  · rename_i hnone
    obtain ⟨hsame, rfl⟩ := gives_pure.mp h
    obtain ⟨rfl, rfl⟩ := Prod.mk.inj hsame
    exact .nothing (by simpa using hnone)
  · rename_i hsome
    simp only [Bool.or_eq_true, not_or, Bool.not_eq_eq_eq_not, Bool.not_true,
      Bool.not_eq_false, List.isEmpty_iff] at hsome
    obtain ⟨g, before, hgenerator, h⟩ := gives_generator h
    obtain ⟨_, _, hwritten, h⟩ := gives_bind.mp h
    obtain rfl := gives_write.mp hwritten
    obtain ⟨⟨dec, report⟩, after, hpass, h⟩ := gives_bind.mp h
    obtain ⟨hsame, rfl⟩ := gives_pure.mp h
    obtain ⟨rfl, rfl⟩ := Prod.mk.inj hsame
    exact .pass g before w' dec report hgenerator hsome.1 hsome.2 (gives_decodeArchive.mp hpass)

/-- What searching one archive after another comes to. -/
inductive Searching (s : Services) (o : SearchOptions) (session : Session) (request : Request) :
    Option Generator → World → List String → List SearchOutcome → List Report → Prop
  | nil (generator : Option Generator) (w : World) :
      Searching s o session request generator w [] [] []
  | cons (generator next : Option Generator) (w before after : World) (archive : String)
      (archives : List String) (found : SearchOutcome) (generated : List Report)
      (searches : List SearchOutcome) (reports : List Report)
      (hfound : found = (session.searchFor request s.engine w.tree archive).2)
      (htree : before.tree = w.tree)
      (hgenerating : Generating s o generator found before next generated after)
      (hrest : Searching s o session request next (after.write "") archives searches reports) :
      Searching s o session request generator w (archive :: archives) (found :: searches)
        (generated ++ reports)

theorem searching_of_gives (h : Gives (searchAll s o { session with request := some request }
      generator archives) w (searches, reports) w') :
    Searching s o session request generator w archives searches reports := by
  induction archives generalizing generator w searches reports with
  | nil =>
      obtain ⟨hsame, -⟩ := gives_pure.mp h
      obtain ⟨rfl, rfl⟩ := Prod.mk.inj hsame
      exact .nil generator w
  | cons archive archives ih =>
      obtain ⟨⟨found, next, generated⟩, _, harchive, h⟩ := gives_bind.mp h
      obtain ⟨after, hwork, rfl⟩ := gives_withArchive.mp harchive
      obtain ⟨_, before, hsearch, hwork⟩ := gives_bind.mp hwork
      obtain ⟨⟨next', generated'⟩, _, hgenerate, hwork⟩ := gives_bind.mp hwork
      obtain ⟨hsame, rfl⟩ := gives_pure.mp hwork
      simp only [Prod.mk.injEq] at hsame
      obtain ⟨rfl, rfl, rfl⟩ := hsame
      obtain ⟨⟨more, reports⟩, _, hmore, h⟩ := gives_bind.mp h
      obtain ⟨hsame, rfl⟩ := gives_pure.mp h
      obtain ⟨rfl, rfl⟩ := Prod.mk.inj hsame
      obtain ⟨hfound, hbefore⟩ := gives_searchArchive.mp hsearch
      exact .cons generator next w before _ archive archives _ _ _ _ hfound (hbefore ▸ rfl)
        (generating_of_gives hgenerate) (ih hmore)

/-- What a session is that has its request. -/
theorem init_eq_ok {begun : Session} (h : session.init request = .ok begun) :
    begun = { session with request := some request } := by
  rw [Session.init] at h
  split at h
  · exact absurd h (by simp)
  · exact (Except.ok.inj h).symm

/-- A search that has an outcome has passed its checks, and its query could be read. -/
theorem searching_of_runIn
    (h : (Operation.search o).runIn s w = (.ok (.search searches reports), w')) :
    o.check = .ok () ∧ ∃ session request archives, o.session = .ok session ∧
      o.request = .ok request ∧ Searching s o session request none w archives searches reports := by
  have hgives : Gives (runSearch s o) w (.search searches reports) w' := h
  obtain ⟨_, _, hcheck, hqueried⟩ := gives_bind.mp hgives
  obtain ⟨hchecked, rfl⟩ := gives_ofExcept.mp hcheck
  obtain ⟨request, _, hrequest, hopened⟩ := gives_bind.mp hqueried
  obtain ⟨hrequested, rfl⟩ := gives_ofExcept.mp hrequest
  obtain ⟨session, _, hsession, hbegun⟩ := gives_bind.mp hopened
  obtain ⟨hnew, rfl⟩ := gives_ofExcept.mp hsession
  obtain ⟨begun, _, hinit, hsearched⟩ := gives_bind.mp hbegun
  obtain ⟨hinitialized, rfl⟩ := gives_ofExcept.mp hinit
  obtain rfl := init_eq_ok hinitialized
  obtain ⟨archives, _, hinputs, hrest⟩ := gives_bind.mp hsearched
  obtain ⟨-, rfl⟩ := gives_inputs.mp hinputs
  obtain ⟨⟨found, generated⟩, _, hall, hend⟩ := gives_bind.mp hrest
  obtain ⟨hsame, rfl⟩ := gives_pure.mp hend
  obtain ⟨rfl, rfl⟩ := Outcome.search.inj hsame
  exact ⟨hchecked, session, request, archives, hnew, hrequested, searching_of_gives hall⟩

end ArchiveScout.Command
