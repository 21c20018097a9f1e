import ComposeCluster.Env.File
import ComposeCluster.Proofs.Source.Lead
import ComposeCluster.Source.Definition
import Mathlib.Data.List.Basic

/-!
# Source files stay below the base directory

A path goes through two walks: `SourceTree.firstLink` looks at the names in it, one after another,
and `SourceTree.entryFrom` at its parts, dots and empty ones included, as the system does when it
opens the file. Both meet the same entries, so the bytes are those of something that is neither a
directory nor a link, with only directories on the way (`read_eq_ok`), and the rest of the disk has
no say in the result (`read_congr`). It need not be a regular file: a device is read as well
(`device_read_below_base`). A system that opens a file follows the links it meets; by then the first
walk has refused a path with links, so it makes no difference what lies behind them
(`readFollowing_eq_read`).
-/

set_option autoImplicit false

namespace ComposeCluster

variable {path : String} {parts : List String}

/-! ## Paths -/

/-- Whether a part of a path is a name, so that it leads to another entry. -/
def isPathName (part : String) : Bool :=
  part != "" && part != "." && part != ".."

/-- An empty part and a single dot are no names. -/
theorem filter_isPathName_of_stay {part : String} (h : part = "" ∨ part = ".") :
    (part :: parts).filter isPathName = parts.filter isPathName := by
  rcases h with rfl | rfl <;> simp [isPathName]

/-- Any other part that does not go up is a name. -/
theorem filter_isPathName_of_move {part : String} (hup : part ≠ "..")
    (h : ¬(part = "" ∨ part = ".")) :
    (part :: parts).filter isPathName = part :: parts.filter isPathName := by
  apply List.filter_cons_of_pos
  simp_all [isPathName]

/-- The names in a path are those among its parts. -/
theorem pathNames_eq (path : String) : pathNames path = (pathParts path).filter isPathName :=
  rfl

/-- Looking for two dots in a row finds them wherever they stand. -/
theorem hasTwoDots_iff (cs : List Char) : hasTwoDots cs = true ↔ ['.', '.'] <:+: cs := by
  induction cs with
  | nil => simp [hasTwoDots]
  | cons c rest ih =>
    cases rest with
    | nil => simp [hasTwoDots, List.infix_cons_iff, List.prefix_cons_iff]
    | cons d rest =>
      rw [List.infix_cons_iff, ← ih]
      by_cases h : c = '.' ∧ d = '.'
      · obtain ⟨rfl, rfl⟩ := h
        simp [hasTwoDots]
      · have hfirst : ¬['.', '.'] <+: c :: d :: rest := by
          intro hdots
          simp only [List.cons_prefix_cons] at hdots
          exact h ⟨hdots.1.symm, hdots.2.1.symm⟩
        have hstep : hasTwoDots (c :: d :: rest) = hasTwoDots (d :: rest) := by
          rw [hasTwoDots.eq_2]
          intro tail hc hd
          injection hd with hd
          exact h ⟨hc, hd⟩
        rw [hstep]
        simp [hfirst]

/-- A piece stands within what it is put together to with others. -/
theorem infix_intercalate {α : Type} {sep piece : List α} {pieces : List (List α)}
    (h : piece ∈ pieces) : piece <:+: sep.intercalate pieces := by
  induction pieces with
  | nil => simp at h
  | cons first rest ih =>
    cases rest with
    | nil => simp_all
    | cons second rest =>
      rw [List.intercalate_cons_cons]
      rcases List.mem_cons.mp h with rfl | hrest
      · exact ⟨[], sep ++ sep.intercalate (second :: rest), by simp⟩
      · exact (ih hrest).trans (List.suffix_append _ _).isInfix

/-- A path without two dots in a row has no part that goes up. -/
theorem up_notMem_pathParts (h : hasTwoDots path.toList = false) : ".." ∉ pathParts path := by
  intro hup
  obtain ⟨piece, hpiece, hdots⟩ := List.mem_map.mp hup
  -- Between slashes again, the parts make up the path.
  have hinfix : piece <:+: ['/'].intercalate (path.toList.splitOn '/') :=
    infix_intercalate hpiece
  rw [List.intercalate_splitOn] at hinfix
  have htwo : piece = ['.', '.'] := by
    have := congrArg String.toList hdots
    simpa using this
  rw [htwo, ← hasTwoDots_iff, h] at hinfix
  cases hinfix

/-- An entry gives these bytes to whoever reads it; directories and links give none. -/
inductive SourceEntry.Yields : SourceEntry → Bytes → Prop where
  | file (content : Bytes) : Yields (.file content) content
  | special (content : Bytes) : Yields (.special content) content

/-- What gives bytes is neither a directory nor a link. -/
theorem SourceEntry.Yields.isLeaf {entry : SourceEntry} {bytes : Bytes} (h : entry.Yields bytes) :
    entry.IsLeaf := by
  cases h with
  | file => exact ⟨nofun, nofun⟩
  | special => exact ⟨nofun, nofun⟩

namespace SourceTree

variable {tree other : SourceTree} {names rest : List String} {name : String}
  {entry last : SourceEntry} {bytes : Bytes}

/-! ## The two walks -/

/-- The base directory is there. -/
theorem entry?_nil (tree : SourceTree) : tree.entry? [] = some .directory := by
  have hbase : tree.base.isPrefixOf tree.base = true :=
    List.isPrefixOf_iff_prefix.2 (List.prefix_refl tree.base)
  simp [entry?_eq, entryAt?, hbase]

/-- A name is looked up in a directory. -/
theorem childAt_eq_ok {way : List String} (h : tree.childAt way name = .ok entry) :
    tree.entryAt? way = some .directory ∧ tree.entryAt? (way ++ [name]) = some entry := by
  unfold childAt at h
  repeat' split at h
  all_goals simp_all

/-- A name is looked up in a directory of the tree. -/
theorem child_eq_ok (h : tree.child names name = .ok entry) :
    tree.entry? names = some .directory ∧ tree.entry? (names ++ [name]) = some entry := by
  simpa only [entry?_eq, List.append_assoc] using childAt_eq_ok h

/-- Where two trees agree on a directory and on an entry in it, looking the entry up gives the
same. -/
theorem child_congr (hhere : tree.entry? names = other.entry? names)
    (hthere : tree.entry? (names ++ [name]) = other.entry? (names ++ [name])) :
    tree.child names name = other.child names name := by
  rw [entry?_eq, entry?_eq, ← List.append_assoc, ← List.append_assoc] at hthere
  unfold child childAt
  rw [hthere]
  simp only [entry?_eq] at hhere
  rw [hhere]

/-- The second walk passes directories only, one for each name in the parts. -/
theorem entryFrom_eq_ok (hup : ".." ∉ parts) (hentry : tree.entry? names = some entry)
    (h : tree.entryFrom names entry parts = .ok last) :
    (∀ front, front <+: parts.filter isPathName → front ≠ parts.filter isPathName →
      tree.entry? (names ++ front) = some .directory) ∧
    tree.entry? (names ++ parts.filter isPathName) = some last := by
  induction parts generalizing names entry with
  | nil =>
    obtain rfl : entry = last := by simpa [entryFrom] using h
    refine ⟨?_, by simpa using hentry⟩
    intro front hfront hne
    exact absurd (List.prefix_nil.mp hfront) hne
  | cons part parts ih =>
    obtain ⟨hpart, hup⟩ : part ≠ ".." ∧ ".." ∉ parts := by
      simpa [eq_comm] using hup
    cases entry with
    | file | link | special | unreadable => simp [entryFrom] at h
    | directory =>
      -- A part that is no name leaves the walk where it is, and has no place among the names.
      by_cases hstay : part = "" ∨ part = "."
      · rw [filter_isPathName_of_stay hstay]
        exact ih hup hentry (by simpa [entryFrom, hstay] using h)
      · rw [filter_isPathName_of_move hpart hstay]
        rw [entryFrom, if_neg hstay] at h
        split at h
        · simp at h
        case h_2 next hchild =>
          have hthere := (child_eq_ok hchild).2
          obtain ⟨hdirectories, hlast⟩ := ih hup hthere h
          refine ⟨?_, by simpa using hlast⟩
          intro front hfront hne
          obtain rfl | ⟨front, rfl, hrest⟩ := List.prefix_cons_iff.mp hfront
          · simpa using hentry
          · have hne : front ≠ parts.filter isPathName := by
              simpa using hne
            simpa using hdirectories front hrest hne

/-- The first walk depends on the entries on its way only. -/
theorem firstLinkFrom_congr
    (h : ∀ front, front <+: rest → tree.entry? (names ++ front) = other.entry? (names ++ front)) :
    tree.firstLinkFrom names rest = other.firstLinkFrom names rest := by
  induction rest generalizing names with
  | nil => rfl
  | cons name rest ih =>
    have hchild : tree.child names name = other.child names name :=
      child_congr (by simpa using h [] (List.nil_prefix))
        (h [name] (by simp))
    have hrest : tree.firstLinkFrom (names ++ [name]) rest =
        other.firstLinkFrom (names ++ [name]) rest := by
      apply ih
      intro front hfront
      simpa using h (name :: front) (by simpa using hfront)
    simp only [firstLinkFrom, hchild, hrest]

/-- The second walk depends on the entries on its way only. -/
theorem entryFrom_congr (hup : ".." ∉ parts)
    (h : ∀ front, front <+: parts.filter isPathName →
      tree.entry? (names ++ front) = other.entry? (names ++ front)) :
    tree.entryFrom names entry parts = other.entryFrom names entry parts := by
  induction parts generalizing names entry with
  | nil => simp [entryFrom]
  | cons part parts ih =>
    obtain ⟨hpart, hup⟩ : part ≠ ".." ∧ ".." ∉ parts := by
      simpa [eq_comm] using hup
    cases entry with
    | file | link | special | unreadable => simp [entryFrom]
    | directory =>
      by_cases hstay : part = "" ∨ part = "."
      · rw [filter_isPathName_of_stay hstay] at h
        simpa [entryFrom, hstay] using ih hup h
      · rw [filter_isPathName_of_move hpart hstay] at h
        have hchild : tree.child names part = other.child names part :=
          child_congr (by simpa using h [] List.nil_prefix) (h [part] (by simp))
        have hrest (next : SourceEntry) : tree.entryFrom (names ++ [part]) next parts =
            other.entryFrom (names ++ [part]) next parts := by
          apply ih hup
          intro front hfront
          simpa using h (part :: front) (by simpa using hfront)
        simp only [entryFrom, if_neg hstay, hchild, hrest]

/-! ## Reading -/

/-- Something that gives these bytes is at the end of a way, with only directories before it. -/
structure Gives (tree : SourceTree) (names : List String) (bytes : Bytes) : Prop where
  directories : ∀ front, front <+: names → front ≠ names → tree.entry? front = some .directory
  last : ∃ entry, tree.entry? names = some entry ∧ entry.Yields bytes

/-- The base directory itself gives no bytes. -/
theorem Gives.names_ne_nil (h : tree.Gives names bytes) : names ≠ [] := by
  rintro rfl
  obtain ⟨entry, hentry, hyields⟩ := h.last
  rw [entry?_nil, Option.some_inj] at hentry
  subst hentry
  cases hyields

/-- What a successful read says about the path and the tree. -/
theorem read_eq_ok (h : tree.read path = .ok bytes) :
    Text.startsWith "/" path = false ∧ hasTwoDots path.toList = false ∧
      tree.Gives (pathNames path) bytes := by
  unfold read at h
  split at h
  · cases h
  case isFalse habsolute =>
    split at h
    · cases h
    case isFalse hdots =>
      have hdots : hasTwoDots path.toList = false := by simpa using hdots
      refine ⟨by simpa using habsolute, hdots, ?_⟩
      split at h
      · cases h
      · cases h
      case h_3 hlink =>
        -- The second walk goes over the same names, and ends where something is read.
        have hgives (last : SourceEntry) (hyields : last.Yields bytes)
            (hlast : tree.entryFrom [] .directory (pathParts path) = .ok last) :
            tree.Gives (pathNames path) bytes := by
          obtain ⟨hdirectories, hentry⟩ :=
            entryFrom_eq_ok (up_notMem_pathParts hdots) tree.entry?_nil hlast
          exact ⟨hdirectories, last, hentry, hyields⟩
        split at h
        · cases h
        · cases h
        case h_3 content hlast =>
          cases h
          exact hgives _ (.file bytes) hlast
        case h_4 content hlast =>
          cases h
          exact hgives _ (.special bytes) hlast
        · cases h
        · cases h

/-- Reading depends on the entries on the way only. -/
theorem read_congr
    (h : ∀ front, front <+: pathNames path → tree.entry? front = other.entry? front) :
    tree.read path = other.read path := by
  unfold read
  by_cases hdots : hasTwoDots path.toList = true
  · simp [hdots]
  · have hup := up_notMem_pathParts (by simpa using hdots)
    have hlink : tree.firstLink path = other.firstLink path := by
      unfold firstLink
      rw [firstLinkFrom_congr (by simpa using h)]
    have hentry : tree.entryFrom [] .directory (pathParts path) =
        other.entryFrom [] .directory (pathParts path) :=
      entryFrom_congr hup (by simpa [pathNames_eq] using h)
    rw [hlink, hentry]

/-! ## What lies behind a link -/

/-- The entry that parts of a path lead to where links are followed; `behind` answers for what a
link in a directory leads to with the parts after it. -/
def followFrom (tree : SourceTree)
    (behind : List String → String → List String → Except FileError SourceEntry)
    (names : List String) (entry : SourceEntry) : List String → Except FileError SourceEntry
  | [] =>
    match entry with
    | .link target => behind names target []
    | entry => .ok entry
  | part :: rest =>
    match entry with
    | .directory =>
      if part = "" ∨ part = "." then tree.followFrom behind names .directory rest
      else
        match tree.child names part with
        | .error error => .error error
        | .ok entry => tree.followFrom behind (names ++ [part]) entry rest
    | .link target => behind names target (part :: rest)
    | .file _ | .special _ | .unreadable _ => .error .notDirectory

/-- The content of the file at a path where the system follows links. -/
def readFollowing (tree : SourceTree)
    (behind : List String → String → List String → Except FileError SourceEntry) (path : String) :
    Except PathError Bytes :=
  if Text.startsWith "/" path then .error .absolute
  else if hasTwoDots path.toList then .error .upward
  else
    match tree.firstLink path with
    | .error error => .error (.file error)
    | .ok (some link) => .error (.link link)
    | .ok none =>
      match tree.followFrom behind [] .directory (pathParts path) with
      | .error error => .error (.file error)
      | .ok .directory => .error .directory
      | .ok (.file content) => .ok content
      | .ok (.special content) => .ok content
      | .ok (.unreadable error) => .error (.unreadable error)
      | .ok (.link _) => .error (.link path)

variable {behind : List String → String → List String → Except FileError SourceEntry}

/-- Where the first walk found no link, following links changes nothing. -/
theorem followFrom_eq_entryFrom (hup : ".." ∉ parts) (hentry : ∀ target, entry ≠ .link target)
    (hlink : tree.firstLinkFrom names (parts.filter isPathName) = .ok none) :
    tree.followFrom behind names entry parts = tree.entryFrom names entry parts := by
  induction parts generalizing names entry with
  | nil =>
    cases entry with
    | link target => exact absurd rfl (hentry target)
    | file | special | unreadable | directory => rfl
  | cons part parts ih =>
    obtain ⟨hpart, hup⟩ : part ≠ ".." ∧ ".." ∉ parts := by
      simpa [eq_comm] using hup
    cases entry with
    | link target => exact absurd rfl (hentry target)
    | file | special | unreadable => rfl
    | directory =>
      by_cases hstay : part = "" ∨ part = "."
      · rw [filter_isPathName_of_stay hstay] at hlink
        simpa only [followFrom, entryFrom, if_pos hstay] using ih hup (by simp) hlink
      · rw [filter_isPathName_of_move hpart hstay, firstLinkFrom] at hlink
        simp only [followFrom, entryFrom, if_neg hstay]
        cases hchild : tree.child names part with
        | error error => rfl
        | ok next =>
          rw [hchild] at hlink
          cases next with
          | link target => simp at hlink
          | file | special | unreadable | directory => exact ih hup (by simp) hlink

/-- Whatever lies behind links, following them reads the same. -/
theorem readFollowing_eq_read : tree.readFollowing behind path = tree.read path := by
  unfold readFollowing read
  by_cases hdots : hasTwoDots path.toList = true
  · simp [hdots]
  · have hup := up_notMem_pathParts (by simpa using hdots)
    cases hlink : tree.firstLinkFrom [] (pathNames path) with
    | error error => simp [firstLink, hlink, Except.map]
    | ok found =>
      cases found with
      | some link => simp [firstLink, hlink, Except.map]
      | none =>
        -- Both walks went over the names, and the first found no link.
        have hfollow : tree.followFrom behind [] .directory (pathParts path) =
            tree.entryFrom [] .directory (pathParts path) :=
          followFrom_eq_entryFrom hup (by simp) hlink
        exact hfollow ▸ rfl

/-! ## The base directory on a disk -/

/-- What is at the end of a relative path that does not go up, where the names lead from the base
directory over directories only: it is neither a directory nor a link, and it gives these bytes. -/
structure IsConfined (tree : SourceTree) (path : String) (bytes : Bytes) : Prop where
  relative : ¬['/'] <+: path.toList
  inside : ¬['.', '.'] <:+: path.toList
  named : pathNames path ≠ []
  directories : ∀ front, front <+: pathNames path → front ≠ pathNames path →
    tree.entryAt? (tree.base ++ front) = some .directory
  last : ∃ entry, tree.entryAt? (tree.base ++ pathNames path) = some entry ∧ entry.IsLeaf ∧
    entry.Yields bytes

/-- Two disks with the same entries on the way along a path from their base directories. -/
def AgreeOnWay (path : String) (tree other : SourceTree) : Prop :=
  ∀ front, front <+: pathNames path →
    tree.entryAt? (tree.base ++ front) = other.entryAt? (other.base ++ front)

variable {kind : SourceKind}

/-- What is read at a path is what is confined there. -/
theorem isConfined_of_read (h : tree.read path = .ok bytes) : tree.IsConfined path bytes := by
  obtain ⟨hrelative, hinside, hgives⟩ := read_eq_ok h
  obtain ⟨entry, hentry, hyields⟩ := hgives.last
  constructor
  case relative =>
    intro hslash
    rw [startsWith_slash_iff.2 hslash] at hrelative
    cases hrelative
  case inside =>
    rw [← hasTwoDots_iff, hinside]
    simp
  case named => exact hgives.names_ne_nil
  case directories => exact hgives.directories
  case last => exact ⟨entry, hentry, hyields.isLeaf, hyields⟩

end SourceTree

/-! ## What is read -/

/-- A config is a text in UTF-8 without a mark at its beginning and without a zero byte. -/
theorem of_isConfigText {bytes : Bytes} (h : isConfigText bytes = true) :
    (∃ text, Text.utf8 text = bytes) ∧ ¬[0xEF, 0xBB, 0xBF] <+: bytes ∧ 0 ∉ bytes := by
  simp only [isConfigText, Bool.and_eq_true, Bool.not_eq_true', Option.isSome_iff_exists] at h
  obtain ⟨⟨⟨text, htext⟩, hmark⟩, hnul⟩ := h
  refine ⟨⟨text, Text.ofUtf8?_eq_some htext⟩, ?_, by simpa using hnul⟩
  intro hmarked
  rw [List.isPrefixOf_iff_prefix.mpr hmarked] at hmark
  cases hmark

/-- Content that is accepted was read, is not too large and, as a config, is a text. -/
theorem SourceTree.readContent_eq_ok {tree : SourceTree} {kind : SourceKind} {bytes : Bytes}
    (h : tree.readContent path kind = .ok bytes) :
    tree.read path = .ok bytes ∧ bytes.length ≤ maxContentSize ∧
      (kind = .config → isConfigText bytes = true) := by
  unfold SourceTree.readContent at h
  split at h
  · cases h
  · split at h
    · cases h
    · split at h
      · cases h
      · simp_all

namespace Env

variable {tree : SourceTree} {required : Bool} {data : Variables}

/-- Values come from the text of a file, or there is no file and it may be missing. -/
theorem load_eq_ok (h : load tree path required = .ok data) :
    (∃ bytes text, tree.read path = .ok bytes ∧ Text.utf8 text = bytes ∧
      parse text path = .ok data) ∨
    (tree.read path = .error (.file .missing) ∧ required = false ∧ data = .empty) := by
  unfold load at h
  split at h
  · split at h
    · simp_all
    · cases h
  · split at h
    · cases h
    case h_2 text htext =>
      have hbytes := Text.ofUtf8?_eq_some htext
      split at h
      · cases h
      · exact .inl ⟨_, text, by assumption, hbytes, by simp_all⟩

end Env

namespace SourceTree

/-- What is read is what something below the base directory gives, on the way to which there are
directories only; it is as small and as much a text as it has to be. Nothing else on the disk has an
influence, nor has what a link leads to. -/
theorem reads_below_base (tree : SourceTree) (path : String) :
    (∀ kind bytes, tree.readContent path kind = .ok bytes →
      tree.IsConfined path bytes ∧ bytes.length ≤ 1048576 ∧
        (kind = .config → (∃ text, Text.utf8 text = bytes) ∧ ¬[0xEF, 0xBB, 0xBF] <+: bytes ∧
          0 ∉ bytes)) ∧
    (∀ required data, Env.load tree path required = .ok data →
      (∃ bytes text, tree.IsConfined path bytes ∧ Text.utf8 text = bytes ∧
        Env.parse text path = .ok data) ∨
      (tree.read path = .error (.file .missing) ∧ required = false ∧ data = .empty)) ∧
    (∀ other, AgreeOnWay path tree other →
      (∀ kind, other.readContent path kind = tree.readContent path kind) ∧
      ∀ required, Env.load other path required = Env.load tree path required) ∧
    ∀ behind, tree.readFollowing behind path = tree.read path := by
  refine ⟨?_, ?_, ?_, fun behind => readFollowing_eq_read⟩
  · intro kind bytes h
    obtain ⟨hread, hsize, htext⟩ := readContent_eq_ok h
    exact ⟨isConfined_of_read hread, hsize, fun hkind => of_isConfigText (htext hkind)⟩
  · intro required data h
    obtain ⟨bytes, text, hread, htext, hdata⟩ | hmissing := Env.load_eq_ok h
    · exact .inl ⟨bytes, text, isConfined_of_read hread, htext, hdata⟩
    · exact .inr hmissing
  · intro other h
    have hread : tree.read path = other.read path := read_congr h
    constructor
    · intro kind
      unfold readContent
      rw [hread]
    · intro required
      unfold Env.load
      rw [hread]

/-- A disk with a file below `srv` and a link there that leads out of it. -/
def serverTree : SourceTree where
  base := ["srv"]
  entries :=
    [(["srv", "conf"], .directory), (["srv", "conf", "app.env"], .file [65, 61, 49]),
      (["srv", "conf", "host"], .link "/etc"), (["etc"], .directory),
      (["etc", "passwd"], .file [120])]

/-- The file is read over doubled slashes and a dot, and the link out of the base directory is
refused. -/
theorem reads_below_base_of_server :
    serverTree.IsConfined "./conf//app.env" [65, 61, 49] ∧
      serverTree.read "conf/host/passwd" = .error (.link "conf/host") := by
  obtain ⟨hcontent, -⟩ := reads_below_base serverTree "./conf//app.env"
  have hread : serverTree.readContent "./conf//app.env" .config = .ok [65, 61, 49] := by
    decide +kernel
  exact ⟨(hcontent .config _ hread).1, by decide +kernel⟩

/-- The directory of the devices as base directory, with one that is at its end at once. -/
def deviceTree : SourceTree := ⟨["dev"], [(["dev", "null"], .special [])]⟩

/-- What is read need not be a regular file. And where an optional environment file is missing, the
result is that of no file, which changes with the file. -/
theorem device_read_below_base :
    (deviceTree.readContent "null" .secret = .ok [] ∧
      Env.load deviceTree "null" true = .ok .empty ∧
      ¬∃ content, deviceTree.entryAt? (deviceTree.base ++ ["null"]) = some (.file content)) ∧
    Env.load .empty "app.env" false = .ok .empty ∧
      Env.load (SourceTree.empty.insert "app.env" (.file [65, 61, 49])) "app.env" false =
        .ok (.singleton "A" "1") := by
  refine ⟨⟨by decide +kernel, by decide +kernel, ?_⟩, by decide +kernel, by decide +kernel⟩
  rintro ⟨content, hfile⟩
  cases hfile

end SourceTree

end ComposeCluster
