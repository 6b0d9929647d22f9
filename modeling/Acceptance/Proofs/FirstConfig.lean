import Acceptance.Config.Load
import Acceptance.Proofs.Absolute
import Acceptance.Proofs.ConfigRoundTrip
import Acceptance.Proofs.Course
import Acceptance.Wizard

namespace Acceptance

open Text (Bytes)

-- Writing a first configuration. Whatever ends the questions early leaves the tree as it is.

theorem Text.ofUtf8_utf8 (text : String) : Text.ofUtf8? (Text.utf8 text) = some text := by
  have encoded : (⟨(Text.utf8 text).toArray⟩ : ByteArray) = text.toByteArray := by
    rw [← String.utf8Encode_toList, List.utf8Encode]
    apply ByteArray.ext
    rw [List.data_toByteArray]
    rfl
  rw [Text.ofUtf8?, encoded, String.fromUTF8?, dif_pos text.isValidUTF8]
  rfl

namespace FileTree

variable {tree after : FileTree} {place : Place} {path : String} {entry : Entry}
  {content bytes old : Bytes} {mode : Nat}

theorem Sound.makeDirectory (sound : tree.Sound) (made : tree.makeDirectory path = .ok after) :
    after.Sound := by
  unfold FileTree.makeDirectory at made
  cases found : tree.find .itself (trimSlashes path).1 with
  | error cause => simp [found, bind, Except.bind] at made
  | ok spot =>
      cases spot with
      | entry place => simp [found, bind, Except.bind] at made
      | vacant directory name slash =>
          simp only [found, bind, Except.bind, pure, Except.pure, Except.ok.injEq] at made
          rw [← made]
          exact sound.put_directory (find_vacant found)

theorem Sound.makeParents {paths : List String} (sound : tree.Sound)
    (made : tree.makeParents paths = .ok after) : after.Sound := by
  induction paths generalizing after with
  | nil =>
      cases made
      exact sound
  | cons path outer ih =>
      rw [FileTree.makeParents] at made
      split at made
      · cases made
        exact sound
      split at made
      · rename_i direct
        cases made
        exact sound.makeDirectory direct
      split at made
      · cases inner : tree.makeParents outer with
        | error cause => simp [inner, bind, Except.bind] at made
        | ok middle =>
            have grown : middle.Sound := ih inner
            simp only [inner, bind, Except.bind] at made
            split at made
            · cases made
              exact grown
            · exact grown.makeDirectory made
      · cases made

theorem Coherent.store_ways (coherent : tree.Coherent)
    (present : tree.entry? place = some (.file old mode)) :
    SameWays tree (tree.store place content mode) := by
  refine ⟨store_cwd.symm, fun spot => ?_⟩
  rw [entry?_store]
  split
  · rename_i named
    refine .inr ⟨?_, trivial⟩
    rcases coherent.mem_twins.mp named.1 with rfl | together
    · rw [present]
      trivial
    · obtain ⟨_, _, _, present'⟩ := coherent.files _ _ together
      rw [present']
      trivial
  · exact .inl rfl

theorem Coherent.writeAt_ways {offset : Nat} (coherent : tree.Coherent) :
    SameWays tree (tree.writeAt place offset bytes) := by
  rcases writeAt_cases tree place offset bytes with same | ⟨content, mode, present, stored⟩
  · rw [same]
    exact .refl tree
  · rw [stored]
    exact coherent.store_ways present

-- Opening a file for writing changes no way; the file is empty then, or it is a device.
theorem create_leaves (coherent : tree.Coherent) (made : tree.create path = .ok (place, after)) :
    SameWays tree after ∧ ((∃ mode, after.entry? place = some (.file [] mode)) ∨
      ∃ device, after.entry? place = some (.device device)) := by
  rcases create_cases made with ⟨directory, name, slash, found, rfl, rfl⟩ |
    ⟨content, mode, found, present, rfl⟩ | ⟨device, found, present, rfl⟩
  · have vacant := find_vacant found
    refine ⟨SameWays.put (by rw [vacant]; trivial) trivial, .inl ⟨Entry.plainMode, ?_⟩⟩
    simp [entry?_put]
  · have inner : place ≠ [] := by
      rintro rfl
      cases present
    refine ⟨coherent.store_ways present, .inl ⟨mode, ?_⟩⟩
    rw [entry?_store, if_pos ⟨mem_twins, inner⟩]
  · exact ⟨.refl _, .inr ⟨device, present⟩⟩

-- The content is where the path leads, unless a device is there.
theorem write_leads (coherent : tree.Coherent) (written : tree.write path bytes = .ok after) :
    SameWays tree after ∧ after.Coherent ∧ ∃ place, tree.lead? path = some place ∧
      ((∃ mode, after.entry? place = some (.file bytes mode)) ∨
        ∃ device, after.entry? place = some (.device device)) := by
  unfold write at written
  cases made : tree.create path with
  | error cause => simp [made, bind, Except.bind] at written
  | ok one =>
      obtain ⟨place, opened⟩ := one
      simp only [made, bind, Except.bind, pure, Except.pure] at written
      split at written
      · cases written
      cases written
      have held : opened.Coherent := coherent.create made
      obtain ⟨ways, left⟩ := create_leaves coherent made
      refine ⟨ways.trans held.writeAt_ways, held.writeAt place 0 bytes, place,
        create_leads made, ?_⟩
      rcases left with ⟨mode, empty⟩ | ⟨device, present⟩
      · exact .inl ⟨mode, writeAt_own empty rfl⟩
      · exact .inr ⟨device, by simp [writeAt, present]⟩

theorem locate_of_lead (lead : tree.lead? path = some place)
    (present : tree.entry? place = some entry) : tree.locate path = .ok place := by
  rw [locate_eq_ok]
  unfold lead? spot? at lead
  split at lead
  · cases lead
    assumption
  · rename_i directory name found
    cases lead
    rw [find_vacant found] at present
    cases present
  · cases lead

end FileTree

theorem Config.load_file {tree : FileTree} {path text : String} {place : Place} {mode : Nat}
    {config : Config} (sound : tree.Sound) (located : tree.locate path = .ok place)
    (present : tree.entry? place = some (.file (Text.utf8 text) mode))
    (shallow : ∀ station ∈ tree.stationsOf path, FileTree.isTooDeep station = false)
    (decoded : ofToml text = .ok config) :
    load tree path true = .ok (config, some place.text) := by
  obtain ⟨canonical, read⟩ := FileTree.canonical_file sound located present shallow
  have readText : tree.readText place.text = .ok text := by
    simp [FileTree.readText, read, Text.ofUtf8_utf8, bind, Except.bind, pure, Except.pure]
  simp [load, canonical, readText, decoded]

namespace Wizard

variable {env : Environment} {shown : Presentation} {path language : String} {quiet force : Bool}
  {keys : Option (List Keys.Key)} {replies : Replies} {session after : Session} {config : Config}

-- The configuration that is asked for, if any is.
def decision (tree : FileTree) (path : String) (quiet force : Bool) (replies : Replies)
    (language : String) : Except Keys.Unanswered (Option Config) :=
  if quiet then .ok (if isGuarded tree path force then none else some {})
  else
    match replies.mayOverwrite (isGuarded tree path force) with
    | .error cause => .error cause
    | .ok false => .ok none
    | .ok true => (replies.config language).map some

def choice (tree : FileTree) (path : String) (quiet force : Bool)
    (keys : Option (List Keys.Key)) (language : String) :
    Except Keys.Unanswered (Option Config) :=
  decision tree path quiet force (.typed (isGuarded tree path force) keys) language

def Reported (shown : Presentation) (path : String) (session : Session) : Prop :=
  [.printed (shown.paint .green (shown.locale.phrases.configWritten (Text.shown path))),
    .printed shown.locale.phrases.nextSteps] <:+ session.events

theorem replies_timeout (answered : replies.config language = .ok config) :
    config.timeoutSeconds = none := by
  simp only [Replies.config, bind, Except.bind, pure, Except.pure] at answered
  -- One question after the other.
  iterate 5
    split at answered
    · cases answered
  cases answered
  rfl

theorem decision_timeout {tree : FileTree}
    (chosen : decision tree path quiet force replies language = .ok (some config)) :
    config.timeoutSeconds = none := by
  unfold decision at chosen
  split at chosen
  · split at chosen
    · cases chosen
    · cases chosen
      rfl
  split at chosen
  · cases chosen
  · cases chosen
  · cases answered : replies.config language with
    | error cause =>
        rw [answered] at chosen
        cases chosen
    | ok own =>
        rw [answered] at chosen
        cases chosen
        exact replies_timeout answered

theorem decision_quiet {tree : FileTree}
    (chosen : decision tree path true force replies language = .ok (some config)) :
    config = {} := by
  simp only [decision, if_true, Except.ok.injEq] at chosen
  split at chosen
  · cases chosen
  · exact (Option.some.inj chosen).symm

theorem content_reads (untimed : config.timeoutSeconds = none) :
    Config.ofToml (content config) = .ok config := by
  apply Config.ofToml_written
  · simp [untimed]
  · rw [content, String.toList_append, Config.header_skipped,
      (Config.render_lines config).skipTrivia]

theorem not_reported {block : String} (session : Session)
    (other : shown.locale.phrases.nextSteps ≠ block) :
    ¬Reported shown path (session.say block) := by
  rintro ⟨front, form⟩
  have last := congrArg List.getLast? form
  simp only [Session.say, Session.emit, List.getLast?_append, List.getLast?_singleton,
    List.getLast?_cons_cons, Option.some_or, Option.some.injEq, Event.printed.injEq] at last
  exact other last

theorem useForce_other (shown : Presentation) :
    shown.locale.phrases.nextSteps ≠ shown.paint .yellow shown.locale.phrases.useForce := by
  obtain ⟨locale, colored⟩ := shown
  cases locale <;> cases colored <;> decide +kernel

theorem wizardAborted_other (locale : Locale) :
    locale.phrases.nextSteps ≠ locale.phrases.wizardAborted := by
  cases locale <;> decide +kernel

-- Up to the configuration nothing but the screen has changed.
def Follows (env : Environment) (shown : Presentation) (path : String) (session : Session)
    (outcome : Except WizardError Unit × Session) :
    Except Keys.Unanswered (Option Config) → Prop
  | .error cause => outcome.1 = .error (.unanswered cause) ∧ outcome.2.tree = session.tree
  | .ok none => outcome.1 = .ok () ∧ outcome.2.tree = session.tree ∧
      ¬Reported shown path outcome.2
  | .ok (some config) => ∃ asked : Session, asked.tree = session.tree ∧
      outcome = finish env shown path config asked

theorem run_follows (env : Environment) (shown : Presentation) (path : String)
    (quiet force : Bool) (replies : Replies) (session : Session) (language : String) :
    Follows env shown path session
      (runAnswered env shown path quiet force replies session language)
      (decision session.tree path quiet force replies language) := by
  unfold runAnswered decision
  cases quiet with
  | true =>
      rw [if_pos rfl, if_pos rfl, runQuietly]
      split
      · exact ⟨rfl, rfl, not_reported _ (useForce_other shown)⟩
      · exact ⟨session, rfl, rfl⟩
  | false =>
      rw [if_neg (by simp), if_neg (by simp)]
      unfold runAsking
      simp only [Session.say_tree]
      cases replies.mayOverwrite (isGuarded session.tree path force) with
      | error cause => exact ⟨rfl, rfl⟩
      | ok overwrite =>
          cases overwrite with
          | false => exact ⟨rfl, rfl, not_reported _ (wizardAborted_other _)⟩
          | true =>
              dsimp only
              cases replies.config language with
              | error cause => exact ⟨rfl, rfl⟩
              | ok config => exact ⟨(session.say _).say _, rfl, rfl⟩

theorem makeParent_sound {tree made : FileTree} (sound : tree.Sound)
    (parents : makeParent path tree = .ok made) : made.Sound := by
  unfold makeParent at parents
  split at parents
  · split at parents
    · cases parents
      exact sound
    split at parents
    · rename_i directories
      cases parents
      exact sound.makeParents directories
    · cases parents
  · cases parents
    exact sound

theorem session_write_tree {text : String} (written : session.write path text = .ok after) :
    session.tree.write path (Text.utf8 text) = .ok after.tree := by
  unfold Session.write at written
  split at written
  · cases written
  · rename_i tree done
    rw [done]
    split at written
    all_goals
      cases written
      rfl

theorem finish_done (done : finish env shown path config session = (.ok (), after)) :
    (∃ collaborators, Collaborators.ofConfig env config = .ok collaborators) ∧
      ∃ made, makeParent path session.tree = .ok made ∧
        made.write path (Text.utf8 (content config)) = .ok after.tree := by
  unfold finish at done
  split at done
  · cases done
  rename_i collaborators usable
  refine ⟨⟨collaborators, usable⟩, ?_⟩
  unfold writeFile at done
  split at done
  · cases done
  rename_i made parents
  simp only at done
  split at done
  · cases done
  rename_i written
  cases done
  have stored := session_write_tree written
  exact ⟨made, parents, stored⟩

-- What was written is loaded, unless it went to a device or lies too deep.
theorem finish_loads (sound : session.tree.Sound) (untimed : config.timeoutSeconds = none)
    (done : finish env shown path config session = (.ok (), after))
    (stored : ∀ device, after.tree.status path ≠ .ok (.device device))
    (shallow : ∀ station ∈ after.tree.stationsOf path, FileTree.isTooDeep station = false) :
    ∃ file, Config.load after.tree path true = .ok (config, some file) := by
  obtain ⟨_, made, parents, written⟩ := finish_done done
  have grown : made.Sound := makeParent_sound sound parents
  obtain ⟨ways, coherent, place, lead, left⟩ := FileTree.write_leads grown.shared written
  rw [ways.lead path] at lead
  rcases left with ⟨mode, present⟩ | ⟨device, present⟩
  · exact ⟨place.text, Config.load_file (grown.of_ways ways coherent)
      (FileTree.locate_of_lead lead present) present shallow (content_reads untimed)⟩
  · have located := FileTree.locate_of_lead lead present
    exact (stored device (FileTree.status_eq_ok.mpr ⟨place, located, present⟩)).elim

-- Whatever the questions are answered with.
theorem answered_or_untouched {result : Except WizardError Unit}
    (ran : runAnswered env shown path quiet force replies session language = (result, after)) :
    (session.tree.pathExists path → force = false → (quiet ∨ replies.overwrite = .ok false) →
      result = .ok () ∧ after.tree = session.tree) ∧
    (∀ cause, decision session.tree path quiet force replies language = .error cause →
      result = .error (.unanswered cause) ∧ after.tree = session.tree) ∧
    (∀ config cause, decision session.tree path quiet force replies language = .ok (some config) →
      Collaborators.ofConfig env config = .error cause →
      result = .error (.collaborators cause) ∧ after.tree = session.tree) ∧
    (result = .ok () → Reported shown path after → session.tree.Sound →
      (∀ device, after.tree.status path ≠ .ok (.device device)) →
      (∀ station ∈ after.tree.stationsOf path, FileTree.isTooDeep station = false) →
      ∃ config file collaborators,
        decision session.tree path quiet force replies language = .ok (some config) ∧
        (quiet → config = {}) ∧
        Config.load after.tree path true = .ok (config, some file) ∧
        Collaborators.ofConfig env config = .ok collaborators) := by
  have follows := run_follows env shown path quiet force replies session language
  rw [ran] at follows
  refine ⟨?_, ?_, ?_, ?_⟩
  · intro present unforced kept
    have nothing : decision session.tree path quiet force replies language = .ok none := by
      rcases kept with rfl | refused
      · simp [decision, isGuarded, present, unforced]
      · cases quiet <;> simp [decision, isGuarded, Replies.mayOverwrite, present, unforced, refused]
    rw [nothing] at follows
    exact ⟨follows.1, follows.2.1⟩
  · intro cause failed
    rw [failed] at follows
    exact follows
  · intro config cause chosen unusable
    rw [chosen] at follows
    obtain ⟨asked, same, finished⟩ := follows
    rw [finish, unusable] at finished
    cases finished
    exact ⟨rfl, same⟩
  · intro done reported sound stored shallow
    subst done
    cases chosen : decision session.tree path quiet force replies language with
    | error cause =>
        rw [chosen] at follows
        cases follows.1
    | ok config? =>
        rw [chosen] at follows
        cases config? with
        | none => exact (follows.2.2 reported).elim
        | some config =>
            obtain ⟨asked, same, finished⟩ := follows
            obtain ⟨⟨collaborators, usable⟩, _⟩ := finish_done finished.symm
            obtain ⟨file, loaded⟩ := finish_loads (same ▸ sound) (decision_timeout chosen)
              finished.symm stored shallow
            refine ⟨config, file, collaborators, rfl, ?_, loaded, usable⟩
            rintro rfl
            exact decision_quiet chosen

theorem typed_overwrite {typed rest : List Keys.Key} {overwrite : Bool}
    (answered : confirm typed = .ok (overwrite, rest)) :
    (Replies.typed true (some typed)).overwrite = .ok overwrite := by
  simp [Replies.typed, taken, answered]

theorem written_or_untouched {result : Except WizardError Unit}
    (ran : run env shown path quiet force keys session language = (result, after)) :
    -- A file that is to stay stays, and so does everything else.
    (session.tree.pathExists path → force = false →
      (quiet ∨ ∃ typed rest, keys = some typed ∧ confirm typed = .ok (false, rest)) →
      result = .ok () ∧ after.tree = session.tree) ∧
    -- A question without an answer.
    (∀ cause, choice session.tree path quiet force keys language = .error cause →
      result = .error (.unanswered cause) ∧ after.tree = session.tree) ∧
    -- A command line that is none.
    (∀ config cause, choice session.tree path quiet force keys language = .ok (some config) →
      Collaborators.ofConfig env config = .error cause →
      result = .error (.collaborators cause) ∧ after.tree = session.tree) ∧
    -- A report of success.
    (result = .ok () → Reported shown path after → session.tree.Sound →
      (∀ device, after.tree.status path ≠ .ok (.device device)) →
      (∀ station ∈ after.tree.stationsOf path, FileTree.isTooDeep station = false) →
      ∃ config file collaborators,
        choice session.tree path quiet force keys language = .ok (some config) ∧
        (quiet → config = {}) ∧
        Config.load after.tree path true = .ok (config, some file) ∧
        Collaborators.ofConfig env config = .ok collaborators) := by
  obtain ⟨stays, unanswered, unusable, written⟩ := answered_or_untouched ran
  refine ⟨fun present unforced kept => ?_, unanswered, unusable, written⟩
  refine stays present unforced (kept.imp_right ?_)
  rintro ⟨typed, rest, rfl, refused⟩
  have guarded : isGuarded session.tree path force = true := by simp [isGuarded, present, unforced]
  rw [guarded]
  exact typed_overwrite refused

-- A first file in a directory that is still to be made.
def attempt (quiet : Bool) (keys : Option (List Keys.Key)) (tree : FileTree) :
    Except WizardError Unit × Session :=
  run {} {} "a/b" quiet false keys { tree } "en"

theorem attempt_eq (quiet : Bool) (keys : Option (List Keys.Key)) (tree : FileTree) :
    run {} {} "a/b" quiet false keys { tree } "en" =
      ((attempt quiet keys tree).1, (attempt quiet keys tree).2) := rfl

theorem empty_sound : FileTree.Sound {} where
  cwd := ⟨FileTree.rooted_nil, rfl⟩
  links := by
    intro place target present
    unfold FileTree.entry? at present
    split at present <;> cases present
  shared := by
    refine ⟨by simp, ?_⟩
    rintro _ _ ⟨_, group, member, _⟩
    cases member

def occupied : FileTree where
  entries := [(["b", "a"], .file [35] 0o644), (["a"], .directory)]

-- A compiler whose quote does not end.
def unclosed : List Keys.Key := Keys.typing "\n'\n\ny\n"

def awkward : List Keys.Key := Keys.typing "it's \"\\\"\ncc '\"' 配\n\ny\n"

theorem written_or_untouched_attempts :
    ((attempt true none occupied).1 = .ok () ∧ (attempt true none occupied).2.tree = occupied) ∧
    ((attempt false none {}).1 = .error (.unanswered .noKeys) ∧
      (attempt false none {}).2.tree = {}) ∧
    (∃ cause, (attempt false (some unclosed) {}).1 = .error (.collaborators cause) ∧
      (attempt false (some unclosed) {}).2.tree = {}) ∧
    ∃ config file, config.testsDir = "it's \"\\\"" ∧
      Config.load (attempt false (some awkward) {}).2.tree "a/b" true =
        .ok (config, some file) := by
  refine ⟨?_, ?_, ?_, ?_⟩
  · have there : occupied.pathExists "a/b" := by decide +kernel
    exact (written_or_untouched (attempt_eq true none occupied)).1 there rfl (.inl rfl)
  · exact (written_or_untouched (attempt_eq false none {})).2.1 .noKeys rfl
  · have chosen : (choice {} "a/b" false false (some unclosed) "en").toOption = some (some
        { language := some "en", compiler := "'", diff := Config.builtinComparator }) := by
      decide +kernel
    have unparsed : Command.Template.parse? {} "'" = none := by decide +kernel
    have builtin : Text.trim Config.builtinComparator.toList = Config.builtinComparator.toList := by
      decide +kernel
    refine ⟨.invalidCommand .compile "'", ?_⟩
    refine (written_or_untouched (attempt_eq false (some unclosed) {})).2.2.1 _ _
      (toOption_eq_some.mp chosen) ?_
    simp [Collaborators.ofConfig, Collaborators.template, Config.usesBuiltin, builtin, unparsed,
      bind, Except.bind, pure, Except.pure]
  · have done : (attempt false (some awkward) {}).1.toOption = some () := by decide +kernel
    have reported : Reported {} "a/b" (attempt false (some awkward) {}).2 := by
      unfold Reported
      decide +kernel
    have file : (attempt false (some awkward) {}).2.tree.isFile "a/b" := by decide +kernel
    have shallow : ∀ station ∈ (attempt false (some awkward) {}).2.tree.stationsOf "a/b",
        FileTree.isTooDeep station = false := by decide +kernel
    have typed : (choice {} "a/b" false false (some awkward) "en").toOption.join.map
        Config.testsDir = some "it's \"\\\"" := by decide +kernel
    obtain ⟨content, mode, present⟩ := FileTree.isFile_iff.mp file
    obtain ⟨config, file, _, chosen, _, loaded, _⟩ :=
      (written_or_untouched (attempt_eq false (some awkward) {})).2.2.2
        (toOption_eq_some.mp done) reported empty_sound (by simp [present]) shallow
    refine ⟨config, file, ?_, loaded⟩
    simpa [chosen, Except.toOption] using typed

def devices : FileTree where
  entries := [(["null", "dev"], .device .null), (["dev"], .directory)]

-- Only the first answer differs from the default.
def casesElsewhere : List Keys.Key := Keys.typing "cases\n\n\nn\n"

def swallowed : Except WizardError Unit × Session :=
  run {} {} "/dev/null" false true (some casesElsewhere) { tree := devices } "en"

theorem device_forgets_configuration :
    swallowed.1 = .ok () ∧ Reported {} "/dev/null" swallowed.2 ∧
      choice devices "/dev/null" false true (some casesElsewhere) "en" =
        .ok (some { language := some "en", testsDir := "cases" }) ∧
      Config.load swallowed.2.tree "/dev/null" true = .ok ({}, some "/dev/null") := by
  have done : swallowed.1.toOption = some () := by decide +kernel
  have reported : Reported {} "/dev/null" swallowed.2 := by
    unfold Reported
    decide +kernel
  have chosen : (choice devices "/dev/null" false true (some casesElsewhere) "en").toOption =
    some (some { language := some "en", testsDir := "cases" }) := by decide +kernel
  have loaded : (Config.load swallowed.2.tree "/dev/null" true).toOption =
    some ({}, some "/dev/null") := by decide +kernel
  exact ⟨toOption_eq_some.mp done, reported, toOption_eq_some.mp chosen,
    toOption_eq_some.mp loaded⟩

end Wizard
end Acceptance
