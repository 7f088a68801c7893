import RecordRules.Builtin.Objection
import RecordRules.Proofs.Keyed

/-!
The rule on uploads. It reads the error of a value twice, once for the code of a failure and once
for one of the parts that a description of an upload has, and the two readings leave no gap: a value
describes an upload whose file is there, or reports a failure, or does neither of the two, and the
rule tells which. Five members decide this, wherever they stand and whatever else the value holds.
-/

namespace RecordRules

namespace Value

/-- The value is an object in which this stands under the key. -/
inductive Member : Value → String → Value → Prop
  | object {before after : List (String × Value)} {key : String} {found : Value}
      (first : key ∉ Keyed.keys before) :
      Member (.object (before ++ (key, found) :: after)) key found

/-- The value describes an upload without an error, and its file is there. Size and error are
integers; doubles do not count, not even whole ones. -/
structure DescribesUpload (isFile : String → Bool) (v : Value) : Prop where
  name : ∃ s, v.Member "name" (.string s)
  type : ∃ s, v.Member "type" (.string s)
  size : ∃ n : WholeNumber, v.Member "size" (.integer n)
  error : ∃ n : WholeNumber, n.value = 0 ∧ v.Member "error" (.integer n)
  file : ∃ path, v.Member "tmp_name" (.string path) ∧ isFile path = true

/-- The value reports that an upload has failed with this code, which has sixty-four bits with a
sign. It need not describe the upload. -/
structure ReportsFailure (v : Value) (code : Int) : Prop where
  failed : code ≠ 0
  lower : -0x8000000000000000 ≤ code
  upper : code < 0x8000000000000000
  error : ∃ n : WholeNumber, n.value = code ∧ v.Member "error" (.integer n)

/-- The keys of what says whether a value describes an upload or reports a failure. -/
def uploadKeys : List String :=
  ["name", "type", "size", "error", "tmp_name"]

/-- The two values have the same under each of these keys. -/
def SameUpload (v w : Value) : Prop :=
  ∀ key ∈ uploadKeys, ∀ found, v.Member key found ↔ w.Member key found

/-- What the rule has to say on a value of that field. -/
inductive UploadFinding (isFile : String → Bool) (field : String) (v : Value) :
    Option Message → Prop
  | upload (described : v.DescribesUpload isFile) : UploadFinding isFile field v none
  | failure {code : Int} (reported : v.ReportsFailure code) :
      UploadFinding isFile field v (some (.uploadFailed field code))
  | neither (undescribed : ¬ v.DescribesUpload isFile)
      (unreported : ∀ code, ¬ v.ReportsFailure code) :
      UploadFinding isFile field v (some (.notUploadedFile field))

section

variable {v w found other : Value} {key : String} {code : Int} {isFile : String → Bool}
variable {field : String} {members extra others : List (String × Value)} {m m' : Option Message}

/-! ### Members -/

theorem member?_eq_some_iff : v.member? key = some found ↔ v.Member key found := by
  constructor
  · intro h
    cases v with
    | object members =>
        obtain ⟨before, after, rfl, hfirst⟩ := Keyed.find?_eq_some_iff_append.1 h
        exact .object hfirst
    | null | bool | integer | double | string | array => cases h
  · rintro ⟨hfirst⟩
    exact Keyed.find?_eq_some_iff_append.2 ⟨_, _, rfl, hfirst⟩

theorem Member.unique (h : v.Member key found) (h' : v.Member key other) : found = other := by
  rw [← member?_eq_some_iff] at h h'
  exact Option.some.inj (h.symm.trans h')

/-- Where no key comes twice, all that matters is what stands under which key. -/
theorem member_object_iff (h : (Keyed.keys members).Nodup) :
    (object members).Member key found ↔ (key, found) ∈ members :=
  member?_eq_some_iff.symm.trans (Keyed.find?_eq_some_iff_mem h)

theorem hasMember_iff {test : Value → Bool} :
    v.hasMember key test = true ↔ ∃ found, v.Member key found ∧ test found = true := by
  simp only [← member?_eq_some_iff, hasMember]
  cases v.member? key <;> simp

theorem hasMember_iff_exists {α : Type} {test : Value → Bool} {write : α → Value}
    (h : ∀ found, test found = true ↔ ∃ a, found = write a) :
    v.hasMember key test = true ↔ ∃ a, v.Member key (write a) := by
  rw [hasMember_iff]
  simp only [h]
  exact ⟨fun ⟨_, hmember, a, ha⟩ => ⟨a, ha ▸ hmember⟩, fun ⟨a, hmember⟩ => ⟨_, hmember, a, rfl⟩⟩

/-! ### Parts of a description -/

theorem isString_iff : v.isString = true ↔ ∃ s, v = .string s := by
  cases v <;> simp [isString, string?]

theorem isSome_integer?_iff : v.integer?.isSome = true ↔ ∃ n, v = .integer n := by
  cases v <;> simp [integer?]

theorem signed?_eq_some_iff : v.signed? = some code ↔
    ∃ n : WholeNumber, v = .integer n ∧ n.value = code ∧ code < 0x8000000000000000 := by
  cases v with
  | integer n =>
      simp only [signed?, WholeNumber.isSigned, decide_eq_true_eq, Option.ite_none_right_eq_some,
        Option.some.injEq, integer.injEq]
      constructor
      · rintro ⟨hupper, rfl⟩
        exact ⟨n, rfl, rfl, hupper⟩
      · rintro ⟨n, rfl, rfl, hupper⟩
        exact ⟨hupper, rfl⟩
  | null | bool | double | string | array | object => simp [signed?]

theorem uploadError?_eq_some_iff : v.uploadError? = some code ↔
    code < 0x8000000000000000 ∧
      ∃ n : WholeNumber, n.value = code ∧ v.Member "error" (.integer n) := by
  rw [uploadError?, Option.bind_eq_some_iff]
  simp only [member?_eq_some_iff, signed?_eq_some_iff]
  constructor
  · rintro ⟨_, hmember, n, rfl, hcode, hupper⟩
    exact ⟨hupper, n, hcode, hmember⟩
  · rintro ⟨hupper, n, hcode, hmember⟩
    exact ⟨_, hmember, n, rfl, hcode, hupper⟩

theorem isUpload_iff : v.isUpload isFile = true ↔ v.DescribesUpload isFile := by
  have hstring (key : String) :
      v.hasMember key isString = true ↔ ∃ s, v.Member key (.string s) :=
    hasMember_iff_exists fun _ => isString_iff
  have hinteger (key : String) :
      v.hasMember key (fun size => size.integer?.isSome) = true ↔
        ∃ n, v.Member key (.integer n) :=
    hasMember_iff_exists fun _ => isSome_integer?_iff
  simp only [isUpload, Bool.and_eq_true, beq_iff_eq, hstring, hinteger, uploadError?_eq_some_iff]
  rw [hasMember_iff]
  constructor
  · rintro ⟨⟨⟨⟨hname, htype⟩, hsize⟩, -, herror⟩, found, hmember, hfile⟩
    cases found with
    | string path => exact ⟨hname, htype, hsize, herror, path, hmember, hfile⟩
    | null | bool | integer | double | array | object => cases hfile
  · rintro ⟨hname, htype, hsize, herror, path, hmember, hfile⟩
    exact ⟨⟨⟨⟨hname, htype⟩, hsize⟩, by decide, herror⟩, _, hmember, hfile⟩

theorem reportsFailure_iff : v.ReportsFailure code ↔ code ≠ 0 ∧ v.uploadError? = some code := by
  rw [uploadError?_eq_some_iff]
  constructor
  · rintro ⟨hfailed, -, hupper, herror⟩
    exact ⟨hfailed, hupper, herror⟩
  · rintro ⟨hfailed, hupper, n, rfl, hmember⟩
    exact ⟨hfailed, n.lower, hupper, n, rfl, hmember⟩

/-! ### The two readings of the error -/

theorem ReportsFailure.unique {code' : Int} (h : v.ReportsFailure code)
    (h' : v.ReportsFailure code') : code = code' := by
  rw [reportsFailure_iff] at h h'
  exact Option.some.inj (h.2.symm.trans h'.2)

theorem ReportsFailure.not_describesUpload (h : v.ReportsFailure code) :
    ¬ v.DescribesUpload isFile := by
  intro hupload
  obtain ⟨n, hcode, hmember⟩ := h.error
  obtain ⟨zero, hzero, hmember'⟩ := hupload.error
  have hsame : n = zero := integer.inj (hmember.unique hmember')
  exact h.failed (by rw [← hcode, hsame, hzero])

theorem UploadFinding.unique (h : v.UploadFinding isFile field m)
    (h' : v.UploadFinding isFile field m') : m = m' := by
  cases h with
  | upload described =>
      cases h' with
      | upload => rfl
      | failure reported => exact absurd described reported.not_describesUpload
      | neither undescribed => exact absurd described undescribed
  | failure reported =>
      cases h' with
      | upload described => exact absurd described reported.not_describesUpload
      | failure reported' => rw [reported.unique reported']
      | neither _ unreported => exact absurd reported (unreported _)
  | neither undescribed unreported =>
      cases h' with
      | upload described => exact absurd described undescribed
      | failure reported => exact absurd reported (unreported _)
      | neither => rfl

/-- Of a value that reports no failure the shape decides. -/
theorem uploadFinding_ifNot (h : ∀ code, ¬ v.ReportsFailure code) (isFile : String → Bool)
    (field : String) :
    v.UploadFinding isFile field ((Message.notUploadedFile field).ifNot (v.isUpload isFile)) := by
  have hshape : v.isUpload isFile = true ↔ v.DescribesUpload isFile := isUpload_iff
  generalize v.isUpload isFile = passed at hshape ⊢
  cases passed with
  | true => exact .upload (hshape.1 rfl)
  | false => exact .neither (fun described => Bool.false_ne_true (hshape.2 described)) h

theorem uploadFinding_fileObjection? (isFile : String → Bool) (field : String) (v : Value) :
    v.UploadFinding isFile field (Builtin.fileObjection? isFile field v) := by
  have hreports (code : Int) :
      v.ReportsFailure code ↔ code ≠ 0 ∧ v.uploadError? = some code := reportsFailure_iff
  rw [Builtin.fileObjection?]
  generalize v.uploadError? = error at hreports ⊢
  cases error with
  | none => exact uploadFinding_ifNot (fun code h => nomatch ((hreports code).1 h).2) isFile field
  | some code =>
      -- the code of success is no failure, and what it is worth is up to the other parts
      by_cases hcode : code = 0
      · subst hcode
        refine uploadFinding_ifNot (fun code h => ?_) isFile field
        obtain ⟨hfailed, hzero⟩ := (hreports code).1 h
        exact hfailed (Option.some.inj hzero).symm
      · simp only [ne_eq, hcode, not_false_eq_true, if_true]
        exact .failure ((hreports code).2 ⟨hcode, rfl⟩)

theorem uploadFinding_iff :
    v.UploadFinding isFile field m ↔ Builtin.fileObjection? isFile field v = m :=
  ⟨fun h => (uploadFinding_fileObjection? isFile field v).unique h,
    fun h => h ▸ uploadFinding_fileObjection? isFile field v⟩

/-! ### Members that do not matter -/

theorem SameUpload.symm (h : SameUpload v w) : SameUpload w v :=
  fun key hkey found => (h key hkey found).symm

theorem SameUpload.describesUpload (h : SameUpload v w) (hv : v.DescribesUpload isFile) :
    w.DescribesUpload isFile := by
  obtain ⟨s, hname⟩ := hv.name
  obtain ⟨t, htype⟩ := hv.type
  obtain ⟨n, hsize⟩ := hv.size
  obtain ⟨zero, hzero, herror⟩ := hv.error
  obtain ⟨path, hpath, hfile⟩ := hv.file
  refine ⟨⟨s, ?_⟩, ⟨t, ?_⟩, ⟨n, ?_⟩, ⟨zero, hzero, ?_⟩, path, ?_, hfile⟩
  · exact (h "name" (by decide) _).1 hname
  · exact (h "type" (by decide) _).1 htype
  · exact (h "size" (by decide) _).1 hsize
  · exact (h "error" (by decide) _).1 herror
  · exact (h "tmp_name" (by decide) _).1 hpath

theorem SameUpload.reportsFailure (h : SameUpload v w) (hv : v.ReportsFailure code) :
    w.ReportsFailure code := by
  obtain ⟨n, hcode, herror⟩ := hv.error
  exact ⟨hv.failed, hv.lower, hv.upper, n, hcode, (h "error" (by decide) _).1 herror⟩

theorem SameUpload.uploadFinding (h : SameUpload v w) (hv : v.UploadFinding isFile field m) :
    w.UploadFinding isFile field m := by
  cases hv with
  | upload described => exact .upload (h.describesUpload described)
  | failure reported => exact .failure (h.reportsFailure reported)
  | neither undescribed unreported =>
      exact .neither (fun described => undescribed (h.symm.describesUpload described))
        fun code reported => unreported code (h.symm.reportsFailure reported)

/-- An object into which members under other keys are put, in any order. -/
theorem sameUpload_of_perm (h : (members ++ extra).Perm others)
    (hothers : (Keyed.keys others).Nodup) (hextra : ∀ key ∈ uploadKeys, key ∉ Keyed.keys extra) :
    SameUpload (.object members) (.object others) := by
  have hkeys : (Keyed.keys members ++ Keyed.keys extra).Nodup := by
    rw [Keyed.keys, Keyed.keys, ← List.map_append]
    exact (h.map Prod.fst).nodup_iff.2 hothers
  intro key hkey found
  rw [member_object_iff hkeys.of_append_left, member_object_iff hothers, ← h.mem_iff,
    List.mem_append]
  refine ⟨.inl, ?_⟩
  rintro (hmember | hmember)
  · exact hmember
  · exact absurd (List.mem_map_of_mem hmember) (hextra key hkey)

end

end Value

namespace Builtin

/-- The rule on uploads lets a value pass exactly if it describes an upload whose file is there. It
reports the code of a failure exactly if the value reports that failure, whatever else is wrong with
it. Of all other values it says that they are no upload. Members under other keys and the order of
the members make no difference. -/
theorem file_tells_uploads (isFile : String → Bool) (field : String) (param : Option String) :
    (∀ value : Value,
      (file.objection? isFile field value param = none ↔ value.DescribesUpload isFile) ∧
      (∀ code, file.objection? isFile field value param = some (.uploadFailed field code) ↔
        value.ReportsFailure code) ∧
      (file.objection? isFile field value param = some (.notUploadedFile field) ↔
        ¬ value.DescribesUpload isFile ∧ ∀ code, ¬ value.ReportsFailure code)) ∧
    ∀ members extra others : List (String × Value), (members ++ extra).Perm others →
      (Keyed.keys others).Nodup → (∀ key ∈ Value.uploadKeys, key ∉ Keyed.keys extra) →
      file.objection? isFile field (.object others) param =
        file.objection? isFile field (.object members) param := by
  simp only [objection?]
  refine ⟨fun value => ?_, fun members extra others hperm hothers hextra => ?_⟩
  · simp only [← Value.uploadFinding_iff]
    refine ⟨⟨?_, .upload⟩, fun code => ⟨?_, .failure⟩, ⟨?_, fun h => .neither h.1 h.2⟩⟩
    · rintro (described | _ | _)
      exact described
    · rintro (_ | reported | _)
      exact reported
    · rintro (_ | _ | ⟨undescribed, unreported⟩)
      exact ⟨undescribed, unreported⟩
  · have hsame := Value.sameUpload_of_perm hperm hothers hextra
    exact Value.uploadFinding_iff.1
      (hsame.uploadFinding (Value.uploadFinding_fileObjection? isFile field (.object members)))

/-- A note and another order do no harm to the description of an upload. -/
theorem file_tells_uploads_of_note :
    let isFile (path : String) := path == "/tmp/upload"
    let members : List (String × Value) := [("name", .string "a.txt"),
      ("type", .string "text/plain"), ("size", .ofInt 5), ("error", .ofInt 0),
      ("tmp_name", .string "/tmp/upload")]
    let extra : List (String × Value) := [("note", .null)]
    (members ++ extra).Perm (extra ++ members) ∧ (Keyed.keys (extra ++ members)).Nodup ∧
      (∀ key ∈ Value.uploadKeys, key ∉ Keyed.keys extra) ∧
      file.objection? isFile "doc" (.object (extra ++ members)) none = none := by
  intro isFile members extra
  have hperm : (members ++ extra).Perm (extra ++ members) := List.perm_append_comm
  have hkeys : (Keyed.keys (extra ++ members)).Nodup := by decide
  have hextra : ∀ key ∈ Value.uploadKeys, key ∉ Keyed.keys extra := by decide
  refine ⟨hperm, hkeys, hextra, ?_⟩
  rw [(file_tells_uploads isFile "doc" none).2 members extra _ hperm hkeys hextra]
  rfl

/-- A code beyond sixty-four bits with a sign is no failure that could be reported. -/
example : file.objection? (fun _ => true) "doc" (.object [("error", .ofInt 0x8000000000000000),
    ("name", .string "a.txt"), ("type", .string "text/plain"), ("size", .ofInt 5),
    ("tmp_name", .string "/tmp/upload")]) none = some (.notUploadedFile "doc") := by
  rfl

end Builtin

end RecordRules
