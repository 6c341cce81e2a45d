import Depository.Proofs.Backend.Validation
import Depository.Proofs.Probe.Release

/-!
# The remote that is listed

The rules of an rclone configuration ask that it has a remote, and the connection test lists the
first one.  The two read the configuration alike, so the test of an accepted configuration always
knows a name.  But the rules do not look at that name.  It is what stands in the brackets of a
header without the blanks around it, and two names do not serve: the test takes a name without any
character for none at all, and the program takes one that begins with a dash for an option.

* `Remotes.IsFirst` — the name of the first section that is a remote, and `Remotes.isFirst_iff`;
* `Circumstances.KeepsFiles` — work directories can be made and files written;
* `Probe.testConfig_lists` — **what the test of an accepted configuration calls**, by the name of
  its first remote.
-/

namespace Depository

open Check (ask request ensure)

/-! ### The first remote -/

namespace Remotes

/-- The name is that of the first section that is a remote. -/
def IsFirst (content name : String) : Prop :=
  ∃ before s after, sections content = before ++ s :: after ∧
    (∀ x ∈ before, x.isRemote = .ok false) ∧ s.isRemote = .ok true ∧ name = String.ofList s.name

/-- The first name among the remotes is that of the first section that is one. -/
theorem isFirst_iff {content name : String} {names : List String} (h : list content = .ok names) :
    IsFirst content name ↔ names.head? = some name := by
  unfold IsFirst
  unfold list at h
  generalize sections content = ss at h ⊢
  induction ss generalizing names with
  | nil =>
    obtain rfl := Except.ok.inj h
    simp
  | cons s ss ih =>
    rw [remotes] at h
    cases hs : s.isRemote with
    | error fault => rw [hs] at h; cases h
    | ok here =>
      cases hmore : remotes ss with
      | error fault => rw [hs, hmore] at h; cases h
      | ok more =>
        rw [hs, hmore] at h
        cases here with
        | true =>
          obtain rfl : String.ofList s.name :: more = names := Except.ok.inj h
          constructor
          · rintro ⟨_ | ⟨y, before⟩, x, after, hss, hbefore, -, rfl⟩
            · rw [(List.cons.inj hss).1]
              rfl
            · obtain rfl : s = y := (List.cons.inj hss).1
              cases hs.symm.trans (hbefore s List.mem_cons_self)
          · intro hname
            exact ⟨[], s, ss, rfl, nofun, hs, (Option.some.inj hname).symm⟩
        | false =>
          obtain rfl : more = names := Except.ok.inj h
          rw [← ih hmore]
          constructor
          · rintro ⟨_ | ⟨y, before⟩, x, after, hss, hbefore, hx, hname⟩
            · obtain rfl : s = x := (List.cons.inj hss).1
              cases hs.symm.trans hx
            · exact ⟨before, x, after, (List.cons.inj hss).2,
                fun z hz => hbefore z (List.mem_cons_of_mem _ hz), hx, hname⟩
          · rintro ⟨before, x, after, rfl, hbefore, hx, hname⟩
            exact ⟨s :: before, x, after, rfl, List.forall_mem_cons.2 ⟨hs, hbefore⟩, hx, hname⟩

/-- An accepted configuration in plain text has a first remote. -/
theorem exists_isFirst {c : RcloneConfig} (hplain : Field.isMarked c.content = false)
    (hvalid : Backend.validate .rclone c true = .ok ()) :
    ∃ name rest, list c.content = .ok (name :: rest) ∧ IsFirst c.content name := by
  obtain ⟨haccepts, hsupplied⟩ := Backend.validate_iff.1 hvalid
  have hcontent : c.content ≠ "" := hsupplied rfl
  have hsubmitted : Backend.isSubmitted c.content = true := by
    simp [Backend.isSubmitted, hplain, hcontent]
  obtain ⟨names, hnames, hne⟩ := haccepts hsubmitted
  obtain ⟨name, rest, rfl⟩ := List.exists_cons_of_ne_nil hne
  have hlist : list c.content = .ok (name :: rest) := by
    unfold Backend.remotesOf at hnames
    split at hnames
    · next h => rw [h, Except.ok.inj hnames]
    · cases hnames
  exact ⟨name, rest, hlist, (isFirst_iff hlist).2 rfl⟩

end Remotes

/-! ### What is called -/

/-- Work directories can be made, and files can be written. -/
structure Circumstances.KeepsFiles (w : Circumstances) : Prop where
  directory : ∀ r stem, ∃ path,
    (w.waiting r (.makeWorkDirectory stem)).reply = some (.ok (.string path))
  file : ∀ r path content mode, ∃ v,
    (w.waiting r (.writeFile path content mode)).reply = some (.ok v)

namespace Probe

variable {w : Circumstances} {r : Run}

/-- The calls up to that of the program, for a remote of this name. -/
def callsOf (program : String) (limit : Number) (c : RcloneConfig) (remote directory : String) :
    List Call :=
  let file := Path.join [directory, "rclone.conf"]
  [.makeWorkDirectory workStem, .writeFile file c.content (some privateMode),
    .runProgram program ["lsf", target remote c.remotePath, "--config", file, "--max-depth", "1"]
      limit]

/-- After the program was called, the directory is removed or nothing is called at all. -/
theorem exists_calls_listRemote (program file remote : String) (limit : Number) (directory : Cell)
    (hfree : r.release = none) :
    ∃ removed, (removed = [] ∨ removed = [Call.remove directory true]) ∧
      (play w (ensure (listRemote program file remote limit) (request (.remove directory true)))
          r).calls =
        r.calls ++
          .runProgram program ["lsf", remote, "--config", file, "--max-depth", "1"] limit ::
            removed := by
  obtain ⟨next, hprogram, hnext⟩ : ∃ next,
      ensure (listRemote program file remote limit) (request (.remove directory true)) =
        .await (.runProgram program ["lsf", remote, "--config", file, "--max-depth", "1"] limit)
          next ∧
      ∀ reply, ∃ outcome, next reply =
        .await (.remove directory true) fun removed => .done (removed.bind fun _ => outcome) := by
    refine ⟨_, rfl, fun reply => ?_⟩
    cases reply with
    | error t =>
      refine ⟨.error (.ofMessage t.programText), congrArg (Check.await _) ?_⟩
      funext removed
      cases removed <;> rfl
    | ok v =>
      refine ⟨.ok (), congrArg (Check.await _) ?_⟩
      funext removed
      cases removed <;> rfl
  obtain ⟨r₁, hcalls₁, hfree₁, hplay₁⟩ := exists_play_await (w := w) hfree
    (.runProgram program ["lsf", remote, "--config", file, "--max-depth", "1"] limit) next
  rw [hprogram, hplay₁]
  cases (w.waiting r _).reply with
  | none => exact ⟨[], .inl rfl, hcalls₁⟩
  | some reply =>
    obtain ⟨outcome, houtcome⟩ := hnext reply
    obtain ⟨r₂, hcalls₂, hfree₂, hplay₂⟩ := exists_play_await (w := w) hfree₁
      (.remove directory true) fun removed => .done (removed.bind fun _ => outcome)
    have hcalls : r₂.calls = r.calls ++
        [.runProgram program ["lsf", remote, "--config", file, "--max-depth", "1"] limit,
          .remove directory true] := by
      rw [hcalls₂, hcalls₁, List.append_assoc]
      rfl
    refine ⟨[.remove directory true], .inr rfl, ?_⟩
    rw [Option.elim_some, houtcome, hplay₂, ← hcalls]
    cases (w.waiting r₁ _).reply with
    | none => rfl
    | some removed => exact calls_play_done hfree₂ _

/-- The test of a configuration whose first remote has a name lists that remote. -/
theorem exists_calls_checkRclone {program : String} {limit : Number} {c : RcloneConfig}
    {name : String} {rest : List String} (hlist : Remotes.list c.content = .ok (name :: rest))
    (hname : name ≠ "") (hw : w.KeepsFiles) (hcalls : r.calls = []) (hfree : r.release = none) :
    ∃ directory removed, (removed = [] ∨ removed = [Call.remove (.ofText directory) true]) ∧
      (play w (checkRclone program limit c) r).calls =
        callsOf program limit c name directory ++ removed := by
  have hfirst : firstRemote c.content = pure name := by
    rw [firstRemote, hlist]
    dsimp only [List.head?]
    split
    · next h => cases h
    · next h => exact absurd (Option.some.inj h) hname
    · next h => rw [Option.some.inj h]
  obtain ⟨next, hmake, hnext⟩ : ∃ next,
      checkRclone program limit c = .await (.makeWorkDirectory workStem) next ∧
      ∀ directory, next (.ok (.string directory)) =
        ensure (listIn (.ofText directory) program name limit c)
          (request (.remove (.ofText directory) true)) := by
    refine ⟨fun reply => (Check.done reply).bind fun directory =>
      ensure (listIn (some directory) program name limit c)
        (request (.remove (some directory) true)), ?_, fun directory => rfl⟩
    rw [checkRclone, hfirst]
    rfl
  obtain ⟨r₁, hcalls₁, hfree₁, hplay₁⟩ := exists_play_await (w := w) hfree
    (.makeWorkDirectory workStem) next
  obtain ⟨directory, hdirectory⟩ := hw.directory r workStem
  have hfile : ∃ next, ensure (listIn (.ofText directory) program name limit c)
      (request (.remove (.ofText directory) true)) =
        .await (.writeFile (Path.join [directory, "rclone.conf"]) c.content (some privateMode))
          next ∧
      ∀ v, next (.ok v) =
        ensure (listRemote program (Path.join [directory, "rclone.conf"])
          (target name c.remotePath) limit) (request (.remove (.ofText directory) true)) :=
    ⟨_, rfl, fun v => rfl⟩
  obtain ⟨next', hwrite, hnext'⟩ := hfile
  obtain ⟨r₂, hcalls₂, hfree₂, hplay₂⟩ := exists_play_await (w := w) hfree₁
    (.writeFile (Path.join [directory, "rclone.conf"]) c.content (some privateMode)) next'
  obtain ⟨v, hv⟩ := hw.file r₁ (Path.join [directory, "rclone.conf"]) c.content (some privateMode)
  obtain ⟨removed, hremoved, hlisted⟩ := exists_calls_listRemote (w := w) program
    (Path.join [directory, "rclone.conf"]) (target name c.remotePath) limit (.ofText directory)
    hfree₂
  refine ⟨directory, removed, hremoved, ?_⟩
  rw [hmake, hplay₁, hdirectory, Option.elim_some, hnext, hwrite, hplay₂, hv, Option.elim_some,
    hnext', hlisted, hcalls₂, hcalls₁, hcalls]
  simp [callsOf]

/-- A remote without a name is none for the test, which makes no call. -/
theorem testConfig_of_nameless {c : RcloneConfig} {rest : List String}
    (hlist : Remotes.list c.content = .ok ("" :: rest)) (s : Settings) (directory : String)
    (limit : Number) (w : Circumstances) :
    (testConfig s directory limit .rclone c false w).outcome =
        .error (.connection .rclone "config does not define any remote") ∧
      (testConfig s directory limit .rclone c false w).calls = [] := by
  have hcheck : check s directory limit .rclone c =
      .done (.error (.ofMessage "config does not define any remote")) := by
    show checkRclone s.rcloneBinary limit c = _
    rw [checkRclone, firstRemote, hlist]
    rfl
  unfold testConfig
  rw [hcheck]
  exact ⟨rfl, rfl⟩

/-- A remote with a name is listed. -/
theorem testConfig_of_named {c : RcloneConfig} {name : String} {rest : List String}
    (hlist : Remotes.list c.content = .ok (name :: rest)) (hname : name ≠ "") (hw : w.KeepsFiles)
    (s : Settings) (directory : String) (limit : Number) :
    ∃ work removed, (removed = [] ∨ removed = [Call.remove (.ofText work) true]) ∧
      (testConfig s directory limit .rclone c false w).calls =
        callsOf s.rcloneBinary limit c name work ++ removed := by
  have hcalls : (testConfig s directory limit .rclone c false w).calls =
      (play w (checkRclone s.rcloneBinary limit c)
        (Run.start ⟨limit, 0, false, .starting none⟩)).calls := calls_report ..
  rw [hcalls]
  exact exists_calls_checkRclone hlist hname hw rfl rfl

/-- What is listed begins with a dash just if the name of the remote does. -/
theorem head_target (name path : String) :
    (target name path).toList.head? = some '-' ↔ name.toList.head? = some '-' := by
  rw [target, String.toList_append, String.toList_append]
  cases name.toList with
  | nil => simp
  | cons c cs => simp

/-- **What the test of an accepted configuration calls.**  Take a configuration in plain text that
is accepted as a new one.  Then it has a first remote.  If that has a name, then in all settings and
circumstances in which work directories can be made and files written, the test makes the directory,
writes the configuration there and calls the program to list the path of that remote, and calls
nothing more unless it is to remove the directory.  If it has the empty name, the test fails because
no remote is defined, and calls nothing.  And the program is given something to list that begins
with a dash just if the name does. -/
theorem testConfig_lists {c : RcloneConfig} (hplain : Field.isMarked c.content = false)
    (hvalid : Backend.validate .rclone c true = .ok ()) :
    ∃ name, Remotes.IsFirst c.content name ∧
      ((target name c.remotePath).toList.head? = some '-' ↔ name.toList.head? = some '-') ∧
      ∀ (s : Settings) (directory : String) (limit : Number) (w : Circumstances),
        let r := testConfig s directory limit .rclone c false w
        (name = "" →
          r.outcome = .error (.connection .rclone "config does not define any remote") ∧
            r.calls = []) ∧
        (name ≠ "" → w.KeepsFiles →
          ∃ work removed, (removed = [] ∨ removed = [Call.remove (.ofText work) true]) ∧
            r.calls = callsOf s.rcloneBinary limit c name work ++ removed) := by
  obtain ⟨name, rest, hlist, hfirst⟩ := Remotes.exists_isFirst hplain hvalid
  refine ⟨name, hfirst, head_target .., fun s directory limit w => ⟨?nameless, ?named⟩⟩
  case nameless =>
    rintro rfl
    exact testConfig_of_nameless hlist s directory limit w
  case named => exact fun hname hw => testConfig_of_named hlist hname hw s directory limit

/-- A remote with a name that is listed. -/
theorem testConfig_lists_remote :
    let s := Settings.defaults "key"
    let w : Circumstances :=
      { answer := fun _ _ => ⟨.ok (), false⟩
        waiting := fun _ _ => ⟨[], some (.ok (.string "/tmp/work"))⟩
        releaseTrouble := fun _ _ => none, freshId := fun _ => "1" }
    let c : RcloneConfig := ⟨"[a]\nprovider=x\n[b]\ntype=s3", "/backups"⟩
    Field.isMarked c.content = false ∧ Backend.validate .rclone c true = .ok () ∧
      ∃ work removed, (testConfig s "/data" (.integer 10) .rclone c false w).calls =
        callsOf "rclone" (.integer 10) c "b" work ++ removed := by
  intro s w c
  have hplain : Field.isMarked c.content = false := by decide
  have hvalid : Backend.validate .rclone c true = .ok () := by decide +kernel
  have hw : w.KeepsFiles := ⟨fun _ _ => ⟨"/tmp/work", rfl⟩, fun _ _ _ _ => ⟨_, rfl⟩⟩
  have hlist : Remotes.list c.content = .ok ["b"] := by decide +kernel
  obtain ⟨name, hfirst, -, htest⟩ := testConfig_lists hplain hvalid
  obtain rfl : "b" = name := Option.some.inj ((Remotes.isFirst_iff hlist).1 hfirst)
  obtain ⟨work, removed, -, hcalls⟩ :=
    (htest s "/data" (.integer 10) w).2 (by decide) hw
  exact ⟨hplain, hvalid, work, removed, hcalls⟩

/-- **Two accepted configurations whose test does not list a remote.**  The first remote of the one
has a blank name, so nothing is called, although there is another remote.  The program takes what
it is to list of the other one for an option. -/
theorem testConfig_lists_nothing :
    let nameless : RcloneConfig := ⟨"[ ]\ntype=s3\n[b]\ntype=s3", "backups"⟩
    let dashed : RcloneConfig := ⟨"[-x]\ntype=s3", "backups"⟩
    (Field.isMarked nameless.content = false ∧ Backend.validate .rclone nameless true = .ok () ∧
      ∀ s directory limit w,
        (testConfig s directory limit .rclone nameless false w).outcome =
            .error (.connection .rclone "config does not define any remote") ∧
          (testConfig s directory limit .rclone nameless false w).calls = []) ∧
    (Field.isMarked dashed.content = false ∧ Backend.validate .rclone dashed true = .ok () ∧
      ∀ s directory limit w, Circumstances.KeepsFiles w →
        ∃ file more, Call.runProgram s.rcloneBinary
            ("lsf" :: "-x:backups" :: "--config" :: file :: more) limit ∈
          (testConfig s directory limit .rclone dashed false w).calls) := by
  intro nameless dashed
  have hnameless : Remotes.list nameless.content = .ok ["", "b"] := by decide +kernel
  have hdashed : Remotes.list dashed.content = .ok ["-x"] := by decide +kernel
  refine ⟨⟨by decide, by decide +kernel, testConfig_of_nameless hnameless⟩, by decide,
    by decide +kernel, fun s directory limit w hw => ?_⟩
  obtain ⟨work, removed, -, hcalls⟩ :=
    testConfig_of_named hdashed (by decide) hw s directory limit
  have htarget : target "-x" dashed.remotePath = "-x:backups" := by decide
  rw [hcalls, callsOf, htarget]
  refine ⟨Path.join [work, "rclone.conf"], ["--max-depth", "1"], List.mem_append_left _ ?_⟩
  exact List.mem_cons_of_mem _ (List.mem_cons_of_mem _ (List.mem_singleton_self _))

end Probe

end Depository
