import Depository.Proofs.Probe.Completion
import Depository.Proofs.Probe.Course

/-!
# The file that is written to a local disk

The test of a local storage writes a small file and removes it.  It does not matter when the caller
is told that the time is over: a file whose write has succeeded is removed.  But the removal follows
the write without anything that would lead to it otherwise, so a write that fails is the end of the
test, and what it may have left on the disk stays there.

* `Course.obeys_checkLocal` — what the test keeps on its course;
* `Session.checkFile_removed_iff` — **the file is removed just if its write succeeded**, and
  `Session.checkFile_left` — a write that fails, after which nothing is removed.
-/

namespace Depository

open Check (obeys_bind)
open Course (Ends)

namespace Course

variable {c : Course}

/-- Nothing is removed but one file at most, whose write has succeeded. -/
structure Spares (c : Course) : Prop where
  once : Method.remove.times c.calls ≤ 1
  own : ∀ path isTree, .remove path isTree ∈ c.calls → isTree = false ∧
    ∃ file content mode v, path = .ofText file ∧ (.writeFile file content mode, .ok v) ∈ c.replies

/-- A file that was written is removed just if the write has succeeded. -/
structure Clears (c : Course) : Prop extends c.Spares where
  clears : ∀ file content mode, .writeFile file content mode ∈ c.calls →
    (.remove (.ofText file) false ∈ c.calls ↔
      ∃ v, (.writeFile file content mode, .ok v) ∈ c.replies)

theorem spares_of_unmade (h : Method.remove.times c.calls = 0) : c.Spares :=
  ⟨by omega, fun path isTree hmem => by
    have := List.countP_eq_zero.1 h _ hmem
    simp [Call.method] at this⟩

theorem Spares.hear (h : c.Spares) (call : Call) (reply : Except Trouble Json) :
    (c.hear call reply).Spares where
  once := h.once
  own path isTree hmem := by
    obtain ⟨hfile, file, content, mode, v, hpath, hreply⟩ := h.own path isTree hmem
    exact ⟨hfile, file, content, mode, v, hpath, List.mem_append_left _ hreply⟩

/-- The test of a local storage removes its file just if the write has succeeded. -/
theorem obeys_checkLocal (directory : String) :
    (Probe.checkLocal directory).Obeys (law Spares) (Ends Clears) .empty := by
  rw [Probe.checkLocal, obeys_bind, obeys_request_of_free rfl]
  refine ⟨spares_of_unmade rfl, fun made => ⟨spares_of_unmade rfl, ?_⟩⟩
  cases made with
  | error t => exact ⟨rfl, spares_of_unmade rfl, by simp [record, Course.hear, empty]⟩
  | ok u =>
    refine obeys_bind.2 fun id => obeys_bind.2 ((obeys_request_of_free rfl).2 ?_)
    refine ⟨spares_of_unmade rfl, fun written => ⟨spares_of_unmade rfl, ?_⟩⟩
    cases written with
    | error t => exact ⟨rfl, spares_of_unmade rfl, by simp [record, Course.hear, empty]⟩
    | ok v =>
      let file := Path.join [directory, ".write-test-" ++ id]
      have hspares : Spares
          ⟨[.makeDirectory directory, .writeFile file "ok" none, .remove (.ofText file) false],
            [(.makeDirectory directory, .ok u), (.writeFile file "ok" none, .ok v)], none⟩ :=
        ⟨Nat.le_refl 1, by simp⟩
      refine (obeys_request_of_free rfl).2
        ⟨hspares, fun removed => ⟨hspares.hear _ removed, rfl, hspares.hear _ removed, ?_⟩⟩
      simp only [record, Course.hear, empty]
      rintro _ _ _ hwrite
      simp_all

end Course

namespace Session

/-- **The file is removed just if its write succeeded.**  Take any settings, directory and limit,
anything that comes of the calls, and any order in which calls settle or never do, the program goes
on, time passes and the caller gives up.  One file at most is removed, and its write has succeeded.
If the program is over, a file that was to be written was removed if the write succeeded, and
otherwise it was not.

The program does come to its end if every call settles some time and the program goes on some time
with what it came to.  The calls that a test reports are those of such an order of events, with the
program at its end if no call is left without a reply. -/
theorem checkFile_removed_iff (w : Circumstances) (s : Settings) (directory : String)
    (limit : Number) (c : Backend.localDisk.Config) :
    (∀ moments : List Moment,
      let x := (ofTest w s directory limit .localDisk c).after w moments
      Method.remove.times x.run.calls ≤ 1 ∧
        (∀ path isTree, .remove path isTree ∈ x.run.calls → isTree = false ∧
          ∃ file content mode v, path = .ofText file ∧
            (.writeFile file content mode, .ok v) ∈ x.replies) ∧
        (x.stage = .finished → ∀ file content mode,
          .writeFile file content mode ∈ x.run.calls →
            (.remove (.ofText file) false ∈ x.run.calls ↔
              ∃ v, (.writeFile file content mode, .ok v) ∈ x.replies))) ∧
    (∀ events, (ofTest w s directory limit .localDisk c).IsFair w events →
      ∃ n, ∀ m, n ≤ m →
        ((ofTest w s directory limit .localDisk c).upTo w events m).stage = .finished) ∧
    ∃ moments, let x := (ofTest w s directory limit .localDisk c).after w moments
      (Probe.testConfig s directory limit .localDisk c false w).calls = x.run.calls ∧
        (w.AlwaysReply → x.stage = .finished) := by
  have hfollows : (ofTest w s directory limit .localDisk c).Follows Course.Spares Course.Clears :=
    follows_start limit (Course.obeys_checkLocal directory)
  refine ⟨fun moments => ?_, fun events hfair => hfair.finishes, ?_⟩
  · have hspares : ((ofTest w s directory limit .localDisk c).after w moments).course.Spares :=
      hfollows.always moments (fun _ => id) (fun _ => Course.Clears.toSpares)
    exact ⟨hspares.once, hspares.own, fun hover => ((hfollows.after moments).1 hover).clears⟩
  · obtain ⟨moments, hcalls, -, hover⟩ := exists_testConfig w s directory limit .localDisk c
    exact ⟨moments, hcalls, hover⟩

/-- A file whose write succeeds when the caller has given up. -/
theorem checkFile_removed_late :
    let s := Settings.defaults "key"
    let w := Circumstances.steady (some (.ok .null))
    let x := (ofTest w s "/data" (.integer 10) .localDisk {}).after w
      [.settles (.ok .null), .resumes, .happens .cancels, .settles (.ok .null), .resumes,
        .settles (.ok .null), .resumes]
    let file := Path.join ["/data", ".write-test-1"]
    x.stage = .finished ∧ .writeFile file "ok" none ∈ x.run.calls ∧
      .remove (.ofText file) false ∈ x.run.calls ∧
      (ofTest w s "/data" (.integer 10) .localDisk {}).IsFair w (byTurns (.ok .null)) ∧
      ∃ n, ∀ m, n ≤ m →
        ((ofTest w s "/data" (.integer 10) .localDisk {}).upTo w (byTurns (.ok .null)) m).stage =
          .finished := by
  intro s w x file
  obtain ⟨hfile, hends, -⟩ := checkFile_removed_iff w s "/data" (.integer 10) {}
  have hover : x.stage = .finished := rfl
  have hcalls : x.run.calls =
      [.makeDirectory "/data", .writeFile file "ok" none, .remove (.ofText file) false] := rfl
  have hwritten : .writeFile file "ok" none ∈ x.run.calls := by simp [hcalls]
  refine ⟨hover, hwritten, ((hfile _).2.2 hover file "ok" none hwritten).2 ⟨.null, ?_⟩,
    isFair_byTurns _ _, hends _ (isFair_byTurns _ _)⟩
  exact List.mem_cons_of_mem _ List.mem_cons_self

/-- **A write that fails, after which nothing is removed**, although every call has settled and the
program is over: the disk is full. -/
theorem checkFile_left :
    let s := Settings.defaults "key"
    let w := Circumstances.steady none
    let x := (ofTest w s "/data" (.integer 10) .localDisk {}).after w
      [.settles (.ok .null), .resumes, .settles (.error (.ofMessage "ENOSPC")), .resumes]
    x.stage = .finished ∧ Probe.finding (.integer 10) (Probe.verdict x.run) = .failed "ENOSPC" ∧
      .writeFile (Path.join ["/data", ".write-test-1"]) "ok" none ∈ x.run.calls ∧
      ∀ path isTree, .remove path isTree ∉ x.run.calls := by
  intro s w x
  have hcalls : x.run.calls =
      [.makeDirectory "/data", .writeFile (Path.join ["/data", ".write-test-1"]) "ok" none] := rfl
  rw [hcalls]
  exact ⟨rfl, rfl, by simp, by simp⟩

end Session

end Depository
