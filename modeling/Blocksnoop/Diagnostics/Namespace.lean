import Blocksnoop.CoreBackend.RoundTrip
import Blocksnoop.Diagnostics

/-!
# One identity for doctor and detector

Doctor reads a status file into a dictionary, the detector scans it for the
`NSpid` line.  On the files that the kernel writes the two find the same innermost
identity, so that the check passes exactly for the targets whose command can be
built, and names the numbers that are on it.
-/

namespace Blocksnoop.Diagnostics

open Blocksnoop.Support Blocksnoop.CoreBackend

/-! ## Words of a stripped text -/

theorem pySplit_append_cons (before after : List Char) {space : Char}
    (h : isPySpace space = true) :
    pySplit (before ++ space :: after) = pySplit before ++ pySplit after := by
  unfold pySplit
  rw [List.splitOnP_append_cons before after h, List.filter_append]

theorem pySplit_nil : pySplit [] = [] := by
  simp [pySplit]

theorem pySplit_dropWhile (cs : List Char) : pySplit (cs.dropWhile isPySpace) = pySplit cs := by
  induction cs with
  | nil => rfl
  | cons c cs ih =>
      by_cases h : isPySpace c = true
      · have hsplit := pySplit_append_cons [] cs h
        rw [pySplit_nil, List.nil_append, List.nil_append] at hsplit
        rw [List.dropWhile_cons_of_pos h, ih, hsplit]
      · rw [List.dropWhile_cons_of_neg h]

theorem pySplit_dropWhile_reverse (cs : List Char) :
    pySplit (cs.dropWhile isPySpace).reverse = pySplit cs.reverse := by
  induction cs with
  | nil => rfl
  | cons c cs ih =>
      by_cases h : isPySpace c = true
      · have hsplit := pySplit_append_cons cs.reverse [] h
        rw [pySplit_nil, List.append_nil] at hsplit
        rw [List.dropWhile_cons_of_pos h, ih, List.reverse_cons, hsplit]
      · rw [List.dropWhile_cons_of_neg h]

/-- The words of a text are those of the stripped text. -/
theorem pySplit_pyStrip (cs : List Char) : pySplit (pyStrip cs) = pySplit cs := by
  unfold pyStrip
  rw [pySplit_dropWhile_reverse, List.reverse_reverse, pySplit_dropWhile]

/-! ## Status files -/

/-- The key of a line that has one. -/
def statusKey (line : List Char) : Option (List Char) :=
  if ':' ∈ line then some (line.takeWhile (· != ':')) else none

/-- A status file as the kernel writes it: no key twice, and behind `NSpid` a tab
and at least one number. -/
structure WellFormedStatus (status : String) : Prop where
  distinct : ((pyLines status).filterMap statusKey).Nodup
  nspid : ∀ line ∈ pyLines status, statusKey line = some "NSpid".toList →
    ∃ numbers, line = "NSpid:".toList ++ '\t' :: numbers ∧ pySplit numbers ≠ []

theorem exists_of_statusKey {line key : List Char} (h : statusKey line = some key) :
    ∃ value, line = key ++ ':' :: value ∧ ':' ∉ key ∧
      line.dropWhile (· != ':') = ':' :: value := by
  unfold statusKey at h
  split at h
  next hcolon =>
    obtain rfl := Option.some.inj h
    have hne : line.dropWhile (· != ':') ≠ [] := by
      rw [Ne, List.dropWhile_eq_nil_iff]
      intro hall
      exact absurd (hall ':' hcolon) (by decide)
    obtain ⟨c, value, hvalue⟩ := List.exists_cons_of_ne_nil hne
    have hc : c = ':' := by
      have hhead := List.head_dropWhile_not (· != ':') hne
      simp only [hvalue, List.head_cons, bne_eq_false_iff_eq] at hhead
      exact hhead
    subst hc
    refine ⟨value, ?_, ?_, hvalue⟩
    · rw [← hvalue, List.takeWhile_append_dropWhile]
    · intro hmem
      exact absurd (List.mem_takeWhile_imp hmem) (by decide)
  · cases h

theorem isPrefixOf_iff_statusKey (line : List Char) :
    "NSpid:".toList.isPrefixOf line = true ↔ statusKey line = some "NSpid".toList := by
  rw [List.isPrefixOf_iff_prefix]
  constructor
  · rintro ⟨rest, rfl⟩
    simp [statusKey, List.takeWhile]
  · intro h
    obtain ⟨value, hline, -, -⟩ := exists_of_statusKey h
    exact ⟨value, by rw [hline]; simp⟩

/-- What a line adds to the dictionary of a status file. -/
def addField (fields : Dict String String) (line : List Char) : Dict String String :=
  match line.dropWhile (· != ':') with
  | _ :: value =>
      Dict.set fields (String.ofList (line.takeWhile (· != ':'))) (String.ofList (pyStrip value))
  | [] => fields

theorem statusFields_eq_foldl (status : String) :
    statusFields status = (pyLines status).foldl addField [] :=
  rfl

theorem addField_of_statusKey {line key : List Char} (h : statusKey line = some key)
    (fields : Dict String String) :
    ∃ value, line = key ++ ':' :: value ∧
      addField fields line = fields.set (String.ofList key) (String.ofList (pyStrip value)) := by
  obtain ⟨value, hline, hkey, hvalue⟩ := exists_of_statusKey h
  refine ⟨value, hline, ?_⟩
  have htake : line.takeWhile (· != ':') = key := by
    unfold statusKey at h
    split at h
    · exact Option.some.inj h
    · cases h
  unfold addField
  rw [hvalue, htake]

theorem get_addField_of_ne {line key : List Char} (h : statusKey line ≠ some key)
    (fields : Dict String String) :
    (addField fields line).get (String.ofList key) = fields.get (String.ofList key) := by
  cases hline : statusKey line with
  | none =>
      have hcolon : ':' ∉ line := by
        intro hmem
        simp [statusKey, hmem] at hline
      have hnil : line.dropWhile (· != ':') = [] := by
        rw [List.dropWhile_eq_nil_iff]
        intro c hc
        simp only [bne_iff_ne]
        rintro rfl
        exact hcolon hc
      unfold addField
      rw [hnil]
  | some other =>
      obtain ⟨value, -, hadd⟩ := addField_of_statusKey hline fields
      rw [hadd, Dict.get_set_of_ne]
      intro hkeys
      have hlists := congrArg String.toList hkeys
      rw [String.toList_ofList, String.toList_ofList] at hlists
      exact h (by rw [hline, hlists])

theorem get_foldl_addField_of_ne {lines : List (List Char)} {key : List Char}
    (h : ∀ line ∈ lines, statusKey line ≠ some key) (fields : Dict String String) :
    (lines.foldl addField fields).get (String.ofList key) = fields.get (String.ofList key) := by
  induction lines generalizing fields with
  | nil => rfl
  | cons line lines ih =>
      rw [List.foldl_cons, ih (fun other hother => h other (List.mem_cons_of_mem _ hother)),
        get_addField_of_ne (h line List.mem_cons_self)]

/-- The two parsers of one file agree. -/
inductive SameId : Except PyException ℤ → Option ℤ → Prop where
  | found (n : ℤ) : SameId (.ok n) (some n)
  | missing : SameId (.error (.other "KeyError")) none
  | invalid : SameId (.error (.other "ValueError")) none

theorem sameId_of_value {fields : Dict String String} {numbers : List Char}
    (hget : fields.get "NSpid" = some (String.ofList (pyStrip ('\t' :: numbers))))
    (hnumbers : pySplit numbers ≠ []) :
    SameId (localId fields) (pyInt ((pySplit numbers).getLast hnumbers)) := by
  have hwords : pySplit (pyStrip ('\t' :: numbers)) = pySplit numbers := by
    have hsplit := pySplit_append_cons [] numbers (show isPySpace '\t' = true by decide)
    rw [pySplit_nil, List.nil_append, List.nil_append] at hsplit
    rw [pySplit_pyStrip, hsplit]
  unfold localId
  rw [hget]
  dsimp only
  rw [String.toList_ofList, hwords, List.getLast?_eq_some_getLast hnumbers]
  dsimp only
  cases pyInt ((pySplit numbers).getLast hnumbers) with
  | none => exact SameId.invalid
  | some n => exact SameId.found n

theorem sameId_foldl {lines : List (List Char)} {fields : Dict String String}
    (hfields : fields.get "NSpid" = none)
    (hdistinct : (lines.filterMap statusKey).Nodup)
    (hnspid : ∀ line ∈ lines, statusKey line = some "NSpid".toList →
      ∃ numbers, line = "NSpid:".toList ++ '\t' :: numbers ∧ pySplit numbers ≠ []) :
    SameId (localId (lines.foldl addField fields)) (lastNSpid lines) := by
  induction lines generalizing fields with
  | nil =>
      have hmissing : localId ([].foldl addField fields) = .error (.other "KeyError") := by
        unfold localId
        rw [List.foldl_nil, hfields]
      rw [hmissing]
      exact SameId.missing
  | cons line lines ih =>
      by_cases hline : statusKey line = some "NSpid".toList
      · obtain ⟨numbers, htext, hnumbers⟩ := hnspid line List.mem_cons_self hline
        have hrest : ∀ other ∈ lines, statusKey other ≠ some "NSpid".toList := by
          rw [List.filterMap_cons_some hline, List.nodup_cons] at hdistinct
          intro other hother hkey
          exact hdistinct.1 (List.mem_filterMap.mpr ⟨other, hother, hkey⟩)
        have hwords : pySplit line = "NSpid:".toList :: pySplit numbers := by
          rw [htext, pySplit_append_cons _ _ (show isPySpace '\t' = true by decide)]
          rfl
        have hscan : lastNSpid (line :: lines) = pyInt ((pySplit numbers).getLast hnumbers) := by
          rw [lastNSpid, if_pos ((isPrefixOf_iff_statusKey line).mpr hline), hwords]
          obtain ⟨word, words, hcons⟩ := List.exists_cons_of_ne_nil hnumbers
          simp only [List.drop_succ_cons, List.drop_zero, hcons]
        obtain ⟨value, hvalue, hadd⟩ := addField_of_statusKey hline fields
        have hvalue' : value = '\t' :: numbers := by
          rw [htext] at hvalue
          have htexts : "NSpid:".toList ++ '\t' :: numbers = "NSpid:".toList ++ value :=
            hvalue.trans (by simp)
          exact (List.append_cancel_left htexts).symm
        rw [hscan, List.foldl_cons]
        refine sameId_of_value ?_ hnumbers
        have hget := get_foldl_addField_of_ne hrest (addField fields line)
        rw [hadd, Dict.get_set_self, hvalue'] at hget
        rw [hadd, hvalue']
        exact hget
      · have hkeep := get_addField_of_ne hline fields
        have hdistinct' : (lines.filterMap statusKey).Nodup := by
          cases hkey : statusKey line with
          | none => rwa [List.filterMap_cons_none hkey] at hdistinct
          | some key =>
              rw [List.filterMap_cons_some hkey, List.nodup_cons] at hdistinct
              exact hdistinct.2
        have hskip : lastNSpid (line :: lines) = lastNSpid lines := by
          rw [lastNSpid, if_neg (mt (isPrefixOf_iff_statusKey line).mp hline)]
        rw [hskip, List.foldl_cons]
        refine ih ?_ hdistinct'
          fun other hother => hnspid other (List.mem_cons_of_mem _ hother)
        rw [← hfields]
        exact hkeep

theorem sameId_statusFields {status : String} (h : WellFormedStatus status) :
    SameId (localId (statusFields status)) (lastNSpid (pyLines status)) := by
  rw [statusFields_eq_foldl]
  exact sameId_foldl rfl h.distinct h.nspid

/-! ## The check and the command -/

variable {F : Type} [PyRuntime F]

/-- What both sides read for a target and one of its threads. -/
structure Identity (proc : ProcSnapshot) (pid tid localPid localTid dev ino : ℤ) : Prop where
  target : proc.pidNamespaceFile (some pid) = some (dev, ino)
  task : proc.pidNamespaceFile (some tid) = some (dev, ino)
  owner : ∃ status, proc.statusFile tid = some status ∧
    (statusFields status).get "Tgid" = some (strInt pid)
  localPid : resolveNamespacePid proc pid = .ok localPid
  localTid : resolveNamespacePid proc tid = .ok localTid

omit [PyRuntime F] in
theorem validateTargetTid_eq_ok_iff {d : CoreDetector F} {proc : ProcSnapshot} {tid : ℤ}
    {targetNamespace : ℤ × ℤ} :
    d.validateTargetTid proc tid targetNamespace = .ok () ↔
      (∃ status, proc.statusFile tid = some status ∧
        (statusFields status).get "Tgid" = some (strInt d.config.pid)) ∧
      proc.pidNamespaceFile (some tid) = some targetNamespace := by
  unfold CoreDetector.validateTargetTid pidNamespace
  cases hstatus : proc.statusFile tid with
  | none => simp
  | some status =>
      dsimp only
      constructor
      · intro h
        split at h
        · cases h
        next hok =>
          rw [not_or, not_not, not_not] at hok
          exact ⟨⟨status, rfl, hok.1⟩, hok.2⟩
      · rintro ⟨⟨status', hsame, htgid⟩, hns⟩
        obtain rfl := Option.some.inj hsame
        rw [if_neg]
        rw [not_or, not_not, not_not]
        exact ⟨htgid, hns⟩

/-- A command is built for an identity, with its numbers. -/
theorem buildCommand_eq_ok_iff {d : CoreDetector F} {proc : ProcSnapshot} {sidecar : String}
    {tid thresholdNs : ℤ} (htid : d.config.tid = some tid)
    (hthreshold : d.config.thresholdNs = .ok thresholdNs) (arguments : List String) :
    (∃ launched, d.buildCommand proc sidecar = .ok (arguments, launched)) ↔
      ∃ localPid localTid dev ino, Identity proc d.config.pid tid localPid localTid dev ino ∧
        arguments = [sidecar,
          "--protocol-version", strInt protocolVersion,
          "--pid", strInt localPid,
          "--tid", strInt localTid,
          "--pidns-dev", strInt dev,
          "--pidns-ino", strInt ino,
          "--threshold-ns", strInt thresholdNs] := by
  constructor
  · rintro ⟨launched, h⟩
    unfold CoreDetector.buildCommand pidNamespace at h
    split at h
    · cases h
    next dev ino hns =>
      obtain ⟨localPid, hpid, h⟩ := exists_of_bind_eq_ok h
      rw [htid] at h
      obtain ⟨_, hvalid, h⟩ := exists_of_bind_eq_ok h
      obtain ⟨localTid, hlocalTid, h⟩ := exists_of_bind_eq_ok h
      obtain ⟨thresholdNs', hthreshold', h⟩ := exists_of_bind_eq_ok h
      obtain rfl := Except.ok.inj (hthreshold.symm.trans hthreshold')
      obtain ⟨rfl, -⟩ := Prod.mk.inj (Except.ok.inj h)
      obtain ⟨howner, htask⟩ := validateTargetTid_eq_ok_iff.mp hvalid
      exact ⟨localPid, localTid, dev, ino, ⟨hns, htask, howner, hpid, hlocalTid⟩, rfl⟩
  · rintro ⟨localPid, localTid, dev, ino, hidentity, rfl⟩
    have hvalid : d.validateTargetTid proc tid (dev, ino) = .ok () :=
      validateTargetTid_eq_ok_iff.mpr ⟨hidentity.owner, hidentity.task⟩
    refine ⟨{ d with
      pidnsDev := some dev
      pidnsIno := some ino
      expectedPid := localPid
      expectedTid := some localTid }, ?_⟩
    simp only [CoreDetector.buildCommand, pidNamespace, hidentity.target, hidentity.localPid,
      htid, hvalid, hidentity.localTid, hthreshold]
    rfl

theorem Identity.exists_lastNSpid {proc : ProcSnapshot} {pid n : ℤ}
    (h : resolveNamespacePid proc pid = .ok n) :
    ∃ status, proc.statusFile pid = some status ∧ lastNSpid (pyLines status) = some n := by
  unfold resolveNamespacePid at h
  split at h
  next m hm =>
    obtain rfl := Except.ok.inj h
    exact Option.bind_eq_some_iff.mp hm
  · cases h

/-- The identity of a process in the dictionary of its status file. -/
theorem localId_cases {proc : ProcSnapshot} {pid : ℤ} {status : String}
    (hstatus : proc.statusFile pid = some status) (h : WellFormedStatus status) :
    (∃ n, resolveNamespacePid proc pid = .ok n ∧ localId (statusFields status) = .ok n) ∨
      ((∀ n, resolveNamespacePid proc pid ≠ .ok n) ∧
        ∃ name ∈ ["OSError", "KeyError", "ValueError"],
          localId (statusFields status) = .error (.other name)) := by
  have hmissing (hnone : lastNSpid (pyLines status) = none) (n : ℤ) :
      resolveNamespacePid proc pid ≠ .ok n := by
    intro hn
    obtain ⟨status', hstatus', hlast⟩ := Identity.exists_lastNSpid hn
    obtain rfl := Option.some.inj (hstatus.symm.trans hstatus')
    rw [hnone] at hlast
    cases hlast
  have hsame := sameId_statusFields h
  generalize hid : localId (statusFields status) = id at hsame
  generalize hlast : lastNSpid (pyLines status) = last at hsame
  cases hsame with
  | found n =>
      refine Or.inl ⟨n, ?_, rfl⟩
      unfold resolveNamespacePid
      rw [hstatus, Option.bind_some, hlast]
  | missing => exact Or.inr ⟨hmissing hlast, "KeyError", by simp, rfl⟩
  | invalid => exact Or.inr ⟨hmissing hlast, "ValueError", by simp, rfl⟩

/-- The two identities, where the files of the target and of its task are there. -/
theorem localIds_cases {proc : ProcSnapshot} {pid tid dev ino : ℤ} {task : ℤ × ℤ}
    {status taskStatus : String} (htarget : proc.pidNamespaceFile (some pid) = some (dev, ino))
    (htask : proc.pidNamespaceFile (some tid) = some task)
    (hstatus : proc.statusFile pid = some status)
    (htaskStatus : proc.statusFile tid = some taskStatus) (h : WellFormedStatus status)
    (htaskFormed : WellFormedStatus taskStatus) :
    (∃ localPid localTid, Identity proc pid tid localPid localTid dev ino ∧
      localIds pid (dev, ino) task (statusFields status) (statusFields taskStatus) =
        .ok (localPid, localTid)) ∨
    ((¬ ∃ localPid localTid dev ino, Identity proc pid tid localPid localTid dev ino) ∧
      ∃ name ∈ ["OSError", "KeyError", "ValueError"],
        localIds pid (dev, ino) task (statusFields status) (statusFields taskStatus) =
          .error (.other name)) := by
  unfold localIds
  by_cases hmismatch :
      (statusFields taskStatus).get "Tgid" ≠ some (strInt pid) ∨ (dev, ino) ≠ task
  · rw [if_pos hmismatch]
    refine Or.inr ⟨?_, "ValueError", by simp, rfl⟩
    rintro ⟨_, _, _, _, hidentity⟩
    obtain ⟨owner, howner, htgid⟩ := hidentity.owner
    obtain rfl := Option.some.inj (htaskStatus.symm.trans howner)
    rcases hmismatch with hne | hne
    · exact hne htgid
    · have hsame := Option.some.inj (htarget.symm.trans hidentity.target)
      have hsame' := Option.some.inj (htask.symm.trans hidentity.task)
      exact hne (hsame.trans hsame'.symm)
  · rw [if_neg hmismatch]
    rw [not_or, not_not, not_not] at hmismatch
    obtain ⟨htgid, rfl⟩ := hmismatch
    rcases localId_cases hstatus h with ⟨localPid, hpid, hid⟩ | ⟨hmissing, name, hname, hid⟩
    · rcases localId_cases htaskStatus htaskFormed with
        ⟨localTid, htid, hid'⟩ | ⟨hmissing, name, hname, hid'⟩
      · refine Or.inl ⟨localPid, localTid, ⟨htarget, htask, ⟨_, htaskStatus, htgid⟩, hpid, htid⟩, ?_⟩
        rw [hid, hid']
        rfl
      · refine Or.inr ⟨?_, name, hname, ?_⟩
        · rintro ⟨_, localTid, _, _, hidentity⟩
          exact hmissing localTid hidentity.localTid
        · rw [hid, hid']
          rfl
    · refine Or.inr ⟨?_, name, hname, ?_⟩
      · rintro ⟨localPid, _, _, _, hidentity⟩
        exact hmissing localPid hidentity.localPid
      · rw [hid]
        rfl

/-- With every file there, the outcome is that of the two identities. -/
theorem resolveNamespace_eq_map {proc : ProcSnapshot} {pid tid dev ino : ℤ} {task own : ℤ × ℤ}
    {status taskStatus : String} (htarget : proc.pidNamespaceFile (some pid) = some (dev, ino))
    (htask : proc.pidNamespaceFile (some tid) = some task)
    (hstatus : proc.statusFile pid = some status)
    (htaskStatus : proc.statusFile tid = some taskStatus)
    (hown : proc.pidNamespaceFile none = some own) :
    resolveNamespace proc pid tid =
      (localIds pid (dev, ino) task (statusFields status) (statusFields taskStatus)).map
        fun ids => {
          targetPid := pid
          targetTid := tid
          localPid := ids.1
          localTid := ids.2
          pidnsDev := dev
          pidnsIno := ino
          sameAsCollector := (dev, ino) = own } := by
  unfold resolveNamespace statNamespace readStatus
  rw [htarget, htask, hstatus, htaskStatus, hown]
  cases hids : localIds pid (dev, ino) task (statusFields status) (statusFields taskStatus) with
  | ok ids =>
      change (localIds pid (dev, ino) task (statusFields status) (statusFields taskStatus) >>= _) = _
      rw [hids]
      rfl
  | error e =>
      change (localIds pid (dev, ino) task (statusFields status) (statusFields taskStatus) >>= _) = _
      rw [hids]
      rfl

/-- The outcome of the check's `try` block: an identity, or an exception that the
check catches. -/
theorem resolveNamespace_cases {proc : ProcSnapshot} {pid tid : ℤ} {own : ℤ × ℤ}
    (hown : proc.pidNamespaceFile none = some own)
    (hpid : ∀ status, proc.statusFile pid = some status → WellFormedStatus status)
    (htid : ∀ status, proc.statusFile tid = some status → WellFormedStatus status) :
    (∃ localPid localTid dev ino, Identity proc pid tid localPid localTid dev ino ∧
      resolveNamespace proc pid tid = .ok {
        targetPid := pid
        targetTid := tid
        localPid := localPid
        localTid := localTid
        pidnsDev := dev
        pidnsIno := ino
        sameAsCollector := (dev, ino) = own }) ∨
    ((¬ ∃ localPid localTid dev ino, Identity proc pid tid localPid localTid dev ino) ∧
      ∃ name ∈ ["OSError", "KeyError", "ValueError"],
        resolveNamespace proc pid tid = .error (.other name)) := by
  cases htarget : proc.pidNamespaceFile (some pid) with
  | none =>
      refine Or.inr ⟨?_, "OSError", by simp, ?_⟩
      · rintro ⟨_, _, _, _, h⟩
        exact absurd (htarget.symm.trans h.target) (by simp)
      · unfold resolveNamespace statNamespace
        rw [htarget]
        rfl
  | some target =>
  cases htask : proc.pidNamespaceFile (some tid) with
  | none =>
      refine Or.inr ⟨?_, "OSError", by simp, ?_⟩
      · rintro ⟨_, _, _, _, h⟩
        exact absurd (htask.symm.trans h.task) (by simp)
      · unfold resolveNamespace statNamespace
        rw [htarget, htask]
        rfl
  | some task =>
  cases hstatus : proc.statusFile pid with
  | none =>
      refine Or.inr ⟨?_, "OSError", by simp, ?_⟩
      · rintro ⟨_, _, _, _, h⟩
        obtain ⟨status, hsome, -⟩ := Identity.exists_lastNSpid h.localPid
        exact absurd (hstatus.symm.trans hsome) (by simp)
      · unfold resolveNamespace statNamespace readStatus
        rw [htarget, htask, hstatus]
        rfl
  | some status =>
  cases htaskStatus : proc.statusFile tid with
  | none =>
      refine Or.inr ⟨?_, "OSError", by simp, ?_⟩
      · rintro ⟨_, _, _, _, h⟩
        obtain ⟨taskStatus, hsome, -⟩ := h.owner
        exact absurd (htaskStatus.symm.trans hsome) (by simp)
      · unfold resolveNamespace statNamespace readStatus
        rw [htarget, htask, hstatus, htaskStatus]
        rfl
  | some taskStatus =>
      obtain ⟨dev, ino⟩ := target
      rw [resolveNamespace_eq_map htarget htask hstatus htaskStatus hown]
      rcases localIds_cases htarget htask hstatus htaskStatus (hpid status hstatus)
          (htid taskStatus htaskStatus) with
        ⟨localPid, localTid, hidentity, hids⟩ | ⟨hnone, name, hname, hids⟩
      · exact Or.inl ⟨localPid, localTid, dev, ino, hidentity, by rw [hids]; rfl⟩
      · exact Or.inr ⟨hnone, name, hname, by rw [hids]; rfl⟩

theorem Identity.eq {proc : ProcSnapshot} {pid tid localPid localTid dev ino : ℤ}
    {localPid' localTid' dev' ino' : ℤ} (h : Identity proc pid tid localPid localTid dev ino)
    (h' : Identity proc pid tid localPid' localTid' dev' ino') :
    localPid' = localPid ∧ localTid' = localTid ∧ dev' = dev ∧ ino' = ino := by
  have hns := Prod.mk.inj (Option.some.inj (h'.target.symm.trans h.target))
  exact ⟨Except.ok.inj (h'.localPid.symm.trans h.localPid),
    Except.ok.inj (h'.localTid.symm.trans h.localTid), hns.1, hns.2⟩

/-- On one snapshot of `/proc`, the check passes exactly when the detector can
build its command, and the numbers it shows are those on the command. -/
theorem checkNamespace_passes_iff (proc : ProcSnapshot) (d : CoreDetector F) (sidecar : String)
    (pid : ℤ) (tid : Option ℤ) (thresholdMs : F) (thresholdNs : ℤ)
    (hconfig : d.config = ({ pid, thresholdMs, tid } : DetectorConfig F).postInit)
    (hthreshold : d.config.thresholdNs = .ok thresholdNs)
    (hown : proc.pidNamespaceFile none ≠ none)
    (hstatus : ∀ id status, id = pid ∨ id = tid.getD pid →
      proc.statusFile id = some status → WellFormedStatus status) :
    ∃ namespace_ check, checkNamespace proc (some pid) tid = .ok (namespace_, check) ∧
      (check.status = .pass ↔
        ∃ arguments launched, d.buildCommand proc sidecar = .ok (arguments, launched)) ∧
      ∀ arguments launched, d.buildCommand proc sidecar = .ok (arguments, launched) →
        ∃ target, namespace_ = some target ∧ arguments = [sidecar,
          "--protocol-version", strInt protocolVersion,
          "--pid", strInt target.localPid,
          "--tid", strInt target.localTid,
          "--pidns-dev", strInt target.pidnsDev,
          "--pidns-ino", strInt target.pidnsIno,
          "--threshold-ns", strInt thresholdNs] := by
  obtain ⟨own, hown⟩ := Option.ne_none_iff_exists'.mp hown
  have htid : d.config.tid = some (tid.getD pid) := by rw [hconfig]; rfl
  have hpid : d.config.pid = pid := by rw [hconfig]; rfl
  have hcommand (arguments : List String) :
      (∃ launched, d.buildCommand proc sidecar = .ok (arguments, launched)) ↔ _ :=
    buildCommand_eq_ok_iff htid hthreshold arguments
  rw [hpid] at hcommand
  rcases resolveNamespace_cases hown (fun status => hstatus pid status (Or.inl rfl))
      (fun status => hstatus (tid.getD pid) status (Or.inr rfl)) with
    ⟨localPid, localTid, dev, ino, hidentity, hresolve⟩ | ⟨hnone, name, hname, hresolve⟩
  · refine ⟨_, _, by dsimp only [checkNamespace]; rw [hresolve], ?_, ?_⟩
    · refine iff_of_true rfl ⟨_, (hcommand _).mpr ⟨localPid, localTid, dev, ino, hidentity, rfl⟩⟩
    · intro arguments launched hbuild
      obtain ⟨localPid', localTid', dev', ino', hidentity', harguments⟩ :=
        (hcommand arguments).mp ⟨launched, hbuild⟩
      obtain ⟨rfl, rfl, rfl, rfl⟩ := hidentity.eq hidentity'
      exact ⟨_, rfl, harguments⟩
  · have hcaught : PyException.other name ∈
        [PyException.other "OSError", .other "KeyError", .other "ValueError"] := by
      simpa using hname
    have hfails : ¬ ∃ arguments launched,
        d.buildCommand proc sidecar = .ok (arguments, launched) := by
      rintro ⟨arguments, hbuild⟩
      obtain ⟨localPid, localTid, dev, ino, hidentity, -⟩ := (hcommand arguments).mp hbuild
      exact hnone ⟨localPid, localTid, dev, ino, hidentity⟩
    refine ⟨_, _, by dsimp only [checkNamespace]; rw [hresolve]; exact if_pos hcaught, ?_, ?_⟩
    · exact iff_of_false (by simp) hfails
    · intro arguments launched hbuild
      exact absurd ⟨arguments, launched, hbuild⟩ hfails

/-! ## A thread in a private namespace -/

theorem wellFormedStatus_nestedProc (id : ℤ) (status : String)
    (h : nestedProc.statusFile id = some status) : WellFormedStatus status := by
  have hcases : status = "Tgid:\t100\nNSpid:\t100\t7\n" ∨
      status = "Tgid:\t100\nNSpid:\t101\t9\n" := by
    unfold nestedProc at h
    dsimp only at h
    split at h
    · exact Or.inl (Option.some.inj h).symm
    · exact Or.inr (Option.some.inj h).symm
    · cases h
  have hlines (line : List Char) (numbers : String)
      (hline : line ∈ ["Tgid:\t100".toList, "NSpid:\t".toList ++ numbers.toList, []])
      (hkey : statusKey line = some "NSpid".toList) (hnumbers : pySplit numbers.toList ≠ []) :
      ∃ numbers, line = "NSpid:".toList ++ '\t' :: numbers ∧ pySplit numbers ≠ [] := by
    simp only [List.mem_cons, List.not_mem_nil, or_false] at hline
    rcases hline with rfl | rfl | rfl
    · exact absurd hkey (by decide)
    · exact ⟨numbers.toList, rfl, hnumbers⟩
    · exact absurd hkey (by decide)
  rcases hcases with rfl | rfl
  · refine ⟨by decide, ?_⟩
    intro line hline hkey
    exact hlines line "100\t7" hline hkey (by decide)
  · refine ⟨by decide, ?_⟩
    intro line hline hkey
    exact hlines line "101\t9" hline hkey (by decide)

theorem checkNamespace_passes_iff_nested :
    ∃ namespace_ check, checkNamespace nestedProc (some 100) (some 101) =
        .ok (namespace_, check) ∧
      (check.status = .pass ↔ ∃ arguments launched,
        nestedDetector.buildCommand nestedProc "/bin/sidecar" = .ok (arguments, launched)) ∧
      ∀ arguments launched,
        nestedDetector.buildCommand nestedProc "/bin/sidecar" = .ok (arguments, launched) →
        ∃ target, namespace_ = some target ∧ arguments = ["/bin/sidecar",
          "--protocol-version", strInt protocolVersion,
          "--pid", strInt target.localPid,
          "--tid", strInt target.localTid,
          "--pidns-dev", strInt target.pidnsDev,
          "--pidns-ino", strInt target.pidnsIno,
          "--threshold-ns", strInt 12500000] :=
  checkNamespace_passes_iff nestedProc nestedDetector "/bin/sidecar" 100 (some 101) (25 / 2)
    12500000 rfl nestedDetector_thresholdNs (by decide)
    fun id status _ => wellFormedStatus_nestedProc id status

end Blocksnoop.Diagnostics
