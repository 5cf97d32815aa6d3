import MeteringAlarms.Alarm.Remote
import MeteringAlarms.Proofs.Http.Address

/-!
# The target of an address

An address has a target when a scheme and an authority are found at its beginning.  Once the
authority is at its end, by a slash say, nothing that is written behind can change it, so the
addresses of single alarms can be asked as soon as the address of all of them can.  What is asked
for is then the path of all alarms and the id behind it, unless something in the id is taken for
more than a part of a segment.
-/

namespace MeteringAlarms.Http.Target

open Text

/-- A character that ends the authority. -/
def endsAuthority (c : Char) : Bool :=
  isSlash c || c = '?' || c = '#'

/-- An address without the characters that are dropped from it. -/
def cleaned (cs : List Char) : List Char :=
  (trim cs).filter (!isDropped ·)

def authority (cs : List Char) : List Char :=
  (cs.dropWhile isSlash).takeWhile (!endsAuthority ·)

theorem isSome_ofUrl?_iff (url : String) :
    (ofUrl? url).isSome ↔
      ∃ cs, afterScheme? (cleaned url.toList) = some cs ∧ isAuthority (authority cs) = true := by
  -- What the target is does not matter here.
  have hurl : ∃ target : List Char → String,
      ofUrl? url = (afterScheme? (cleaned url.toList)).bind fun cs ↦
        if !isAuthority (authority cs) then none else some (target cs) :=
    ⟨_, rfl⟩
  obtain ⟨target, hurl⟩ := hurl
  rw [hurl]
  cases afterScheme? (cleaned url.toList) with
  | none => simp
  | some cs => cases hauthority : isAuthority (authority cs) <;> simp [hauthority]

/-! ## Addresses that go on -/

/-- What the address of all alarms ends in. -/
abbrev tail : List Char := "/v2/alarms".toList

theorem trim_append (front more : List Char) :
    trim (front ++ tail ++ more) =
      front.dropWhile isControlOrSpace ++ tail ++
        (more.reverse.dropWhile isControlOrSpace).reverse := by
  have hfront : (front ++ tail ++ more).dropWhile isControlOrSpace =
      front.dropWhile isControlOrSpace ++ (tail ++ more) := by
    rw [List.append_assoc]
    exact dropWhile_append_cons (by decide)
  have hend :
      (more.reverse ++ (tail.reverse ++ (front.dropWhile isControlOrSpace).reverse)).dropWhile
          isControlOrSpace =
        more.reverse.dropWhile isControlOrSpace ++
          (tail.reverse ++ (front.dropWhile isControlOrSpace).reverse) :=
    dropWhile_append_cons (by decide)
  rw [trim, hfront, List.reverse_append, List.reverse_append, List.append_assoc, hend]
  simp only [List.reverse_append, List.reverse_reverse]

theorem cleaned_append (front : List Char) :
    ∃ front', cleaned (front ++ tail) = front' ++ tail ∧
      ∀ more, cleaned (front ++ tail ++ more) =
        front' ++ tail ++ (more.rdropWhile isControlOrSpace).filter (!isDropped ·) := by
  have htail : tail.filter (!isDropped ·) = tail := by decide
  refine ⟨(front.dropWhile isControlOrSpace).filter (!isDropped ·), ?_, fun more ↦ ?_⟩
  · have htrim := trim_append front []
    rw [List.append_nil] at htrim
    rw [cleaned, htrim, List.filter_append, List.filter_append, htail]
    exact List.append_nil _
  · rw [cleaned, trim_append, List.filter_append, List.filter_append, htail, List.rdropWhile]

theorem mem_of_afterScheme? {front cs : List Char} (h : afterScheme? (front ++ tail) = some cs) :
    ':' ∈ front := by
  apply Classical.byContradiction
  intro hnone
  have hall : (front ++ tail).takeWhile (· ≠ ':') = front ++ tail := by
    rw [List.takeWhile_eq_self_iff]
    intro c hc
    apply decide_eq_true
    rintro rfl
    rcases List.mem_append.1 hc with hfront | htail
    · exact hnone hfront
    · exact absurd htail (by decide)
  have hslash : '/' ∈ ((front ++ tail).takeWhile (· ≠ ':')).map Char.toLower := by
    rw [hall]
    exact List.mem_map.2 ⟨'/', List.mem_append_right _ (by decide), by decide⟩
  rw [afterScheme?] at h
  split at h
  · rename_i hscheme
    rcases hscheme with hhttp | hhttps
    · rw [hhttp] at hslash
      exact absurd hslash (by decide)
    · rw [hhttps] at hslash
      exact absurd hslash (by decide)
  · cases h

theorem afterScheme?_append {front cs : List Char} (h : afterScheme? (front ++ tail) = some cs) :
    ∃ rest, cs = rest ++ tail ∧
      ∀ more, afterScheme? (front ++ tail ++ more) = some (rest ++ tail ++ more) := by
  have hcolon := mem_of_afterScheme? h
  let scheme := (front.takeWhile (· ≠ ':')).map Char.toLower
  have hscheme (more : List Char) : afterScheme? (front ++ more) =
      if scheme = "http".toList ∨ scheme = "https".toList then
        some (front.drop (scheme.length + 1) ++ more)
      else none := by
    have hlength : scheme.length + 1 ≤ front.length := by
      rw [List.length_map]
      exact length_takeWhile_lt hcolon (by decide)
    rw [afterScheme?, takeWhile_append_of_mem hcolon (by decide),
      List.drop_append_of_le_length hlength]
  have hknown : scheme = "http".toList ∨ scheme = "https".toList := by
    apply Classical.byContradiction
    intro hunknown
    rw [hscheme, if_neg hunknown] at h
    cases h
  rw [hscheme, if_pos hknown] at h
  refine ⟨front.drop (scheme.length + 1), (Option.some.inj h).symm, fun more ↦ ?_⟩
  rw [List.append_assoc, hscheme, if_pos hknown, List.append_assoc]

/-- The last slash is behind whatever slashes come first. -/
theorem dropWhile_isSlash_append (rest more : List Char) :
    (rest ++ tail ++ more).dropWhile isSlash =
      (rest ++ "/v2".toList).dropWhile isSlash ++ '/' :: "alarms".toList ++ more := by
  have hv : 'v' ∈ rest ++ "/v2".toList := List.mem_append_right _ (by decide)
  have hsplit :
      rest ++ tail ++ more = rest ++ "/v2".toList ++ ('/' :: "alarms".toList ++ more) := by
    rw [List.append_assoc, List.append_assoc]
    rfl
  rw [hsplit, dropWhile_append_of_mem hv (by decide), List.append_assoc]

theorem authority_append (rest more : List Char) :
    authority (rest ++ tail ++ more) = authority (rest ++ tail) := by
  have hall := dropWhile_isSlash_append rest more
  have hnone := dropWhile_isSlash_append rest []
  have hslash : '/' ∈ (rest ++ "/v2".toList).dropWhile isSlash ++ '/' :: "alarms".toList :=
    List.mem_append_right _ (by decide)
  rw [List.append_nil, List.append_nil] at hnone
  rw [authority, authority, hall, hnone, takeWhile_append_of_mem hslash (by decide)]

/-- Where all alarms can be asked for, whatever may stand behind. -/
theorem isSome_ofUrl?_append {base : String} (h : (ofUrl? (base ++ "/v2/alarms")).isSome)
    (more : String) : (ofUrl? (base ++ "/v2/alarms" ++ more)).isSome := by
  rw [isSome_ofUrl?_iff] at h ⊢
  obtain ⟨cs, hscheme, hauthority⟩ := h
  rw [String.toList_append] at hscheme
  rw [String.toList_append, String.toList_append]
  obtain ⟨front, hclean, hmore⟩ := cleaned_append base.toList
  rw [hclean] at hscheme
  obtain ⟨rest, rfl, hrest⟩ := afterScheme?_append hscheme
  refine ⟨_, (congrArg afterScheme? (hmore more.toList)).trans (hrest _), ?_⟩
  rw [authority_append]
  exact hauthority

/-! ## Segments that are sent as they are -/

open Address

/-- The path and the query of an address, with what ends the authority in front. -/
def behindAuthority (cs : List Char) : List Char :=
  (cs.dropWhile isSlash).dropWhile (!endsAuthority ·)

theorem mem_of_mem_cleaned {c : Char} {cs : List Char} (h : c ∈ cleaned cs) : c ∈ cs := by
  have htrim := List.mem_of_mem_filter h
  rw [trim, List.mem_reverse] at htrim
  have hreverse := (List.dropWhile_suffix _).subset htrim
  exact (List.dropWhile_suffix _).subset (List.mem_reverse.1 hreverse)

theorem mem_of_mem_afterScheme? {c : Char} {cs rest : List Char}
    (h : afterScheme? cs = some rest) (hc : c ∈ rest) : c ∈ cs := by
  rw [afterScheme?] at h
  split at h
  · cases h
    exact List.mem_of_mem_drop hc
  · cases h

/-- A query as it is asked for, with its question mark. -/
def writtenQuery : List Char → List Char
  | '?' :: query => '?' :: encode keptInQuery query
  | _ => []

theorem ofUrl?_eq (url : String) :
    ofUrl? url = (afterScheme? (cleaned url.toList)).bind fun cs ↦
      if !isAuthority (authority cs) then none else
      let behind := ((cs.dropWhile isSlash).drop (authority cs).length).takeWhile (· ≠ '#')
      let written := behind.takeWhile (· ≠ '?')
      some (String.ofList (path written ++ writtenQuery (behind.drop written.length))) := rfl

/-- An address without a query and a fragment has the target that its path has. -/
theorem ofUrl?_of_isUnmarked {url : String} (hurl : IsUnmarked url) {cs : List Char}
    (hscheme : afterScheme? (cleaned url.toList) = some cs)
    (hauthority : isAuthority (authority cs) = true) :
    ofUrl? url = some (String.ofList (path (behindAuthority cs))) := by
  have hsubset {c : Char} (hc : c ∈ behindAuthority cs) : c ∈ url.toList := by
    have hcs := (List.dropWhile_suffix _).subset ((List.dropWhile_suffix _).subset hc)
    exact mem_of_mem_cleaned (mem_of_mem_afterScheme? hscheme hcs)
  have hquery : (behindAuthority cs).takeWhile (· ≠ '?') = behindAuthority cs :=
    takeWhile_ne_of_notMem fun hmem ↦ hurl.query (hsubset hmem)
  have hfragment : (behindAuthority cs).takeWhile (· ≠ '#') = behindAuthority cs :=
    takeWhile_ne_of_notMem fun hmem ↦ hurl.fragment (hsubset hmem)
  have hbehind : (cs.dropWhile isSlash).drop (authority cs).length = behindAuthority cs := by
    have hsplit : authority cs ++ behindAuthority cs = cs.dropWhile isSlash :=
      List.takeWhile_append_dropWhile
    rw [← hsplit, List.drop_left]
  rw [ofUrl?_eq, hscheme, Option.bind_some, if_neg (by rw [hauthority]; decide), hbehind]
  dsimp only
  rw [hfragment, hquery, List.drop_length, writtenQuery, List.append_nil]
  · exact nofun

/-- The segments before a slash do not depend on what comes behind it. -/
theorem exists_path_append (front : List Char) :
    ∃ segments, ∀ more, path (front ++ '/' :: more) =
      (resolveSegments [] (segments ++ Text.parts isSlash more)).flatMap
        fun segment ↦ '/' :: encode keptInPath segment := by
  have hslash : isSlash '/' = true := by decide
  cases front with
  | nil => exact ⟨[], fun more ↦ rfl⟩
  | cons c front =>
    cases hc : isSlash c with
    | true =>
      refine ⟨Text.parts isSlash front, fun more ↦ ?_⟩
      rw [← parts_append_cons hslash, List.cons_append, path]
      rw [if_pos hc]
    | false =>
      refine ⟨Text.parts isSlash (c :: front), fun more ↦ ?_⟩
      rw [← parts_append_cons hslash, List.cons_append, path]
      rw [if_neg (by rw [hc]; decide)]

theorem resolveSegments_cons (passed : List (List Char)) (segment : List Char)
    {segments : List (List Char)} (h : segments ≠ []) :
    resolveSegments passed (segment :: segments) =
      resolveSegments (if dots segment = ['.', '.'] then passed.drop 1
        else if dots segment = ['.'] then passed else segment :: passed) segments := by
  obtain ⟨next, others, rfl⟩ := List.exists_cons_of_ne_nil h
  rw [resolveSegments]
  · split
    · rfl
    · split <;> rfl
  · exact List.cons_ne_nil next others

/-- A segment that is no dots comes last, behind another one that is none. -/
theorem resolveSegments_append {last segment : List Char}
    (hlast : dots last ≠ ['.'] ∧ dots last ≠ ['.', '.'])
    (hsegment : dots segment ≠ ['.'] ∧ dots segment ≠ ['.', '.'])
    (segments passed : List (List Char)) :
    resolveSegments passed (segments ++ [last, segment]) =
      resolveSegments passed (segments ++ [last]) ++ [segment] := by
  induction segments generalizing passed with
  | nil =>
    rw [List.nil_append, List.nil_append, resolveSegments_cons _ _ (List.cons_ne_nil _ _),
      if_neg hlast.2, if_neg hlast.1, resolveSegments, if_neg hsegment.2, if_neg hsegment.1,
      resolveSegments, if_neg hlast.2, if_neg hlast.1, List.reverse_cons]
  | cons first segments ih =>
    rw [List.cons_append, List.cons_append,
      resolveSegments_cons _ _ (List.append_ne_nil_of_right_ne_nil _ (List.cons_ne_nil _ _)),
      resolveSegments_cons _ _ (List.append_ne_nil_of_right_ne_nil _ (List.cons_ne_nil _ _)), ih]

/-- An id is a segment that is sent as it stands, but for characters that are encoded. -/
structure IsSent (id : String) : Prop extends IsPlain id where
  backslash : '\\' ∉ id.toList
  undropped : id.toList.any isDropped = false
  untrimmed : id.toList.getLast?.any isControlOrSpace = false
  undotted : id ≠ "." ∧ id ≠ ".."

theorem dots_of_isIn_eq_false {cs : List Char} (h : Escape.isIn cs = false) : dots cs = cs := by
  have htail {c : Char} {cs : List Char} (h : Escape.isIn (c :: cs) = false) :
      Escape.isIn cs = false := (Bool.or_eq_false_iff.1 h).2
  induction cs using dots.induct with
  | case1 c rest hc ih =>
    have hfirst := (Bool.or_eq_false_iff.1 h).1
    rcases hc with rfl | rfl <;> cases hfirst
  | case2 c rest hc ih => rw [dots, if_neg hc, ih (htail (htail (htail h)))]
  | case3 c rest hne ih =>
    rw [dots, ih (htail h)]
    exact hne
  | case4 => rfl

theorem IsSent.dots {id : String} (hid : IsSent id) :
    Target.dots id.toList ≠ ['.'] ∧ Target.dots id.toList ≠ ['.', '.'] := by
  rw [dots_of_isIn_eq_false hid.escape]
  exact ⟨fun h ↦ hid.undotted.1 (String.toList_inj.1 h),
    fun h ↦ hid.undotted.2 (String.toList_inj.1 h)⟩

theorem IsSent.cleaned {id : String} (hid : IsSent id) :
    (('/' :: id.toList).rdropWhile isControlOrSpace).filter (!isDropped ·) = '/' :: id.toList := by
  have hend : ('/' :: id.toList).rdropWhile isControlOrSpace = '/' :: id.toList := by
    rcases List.eq_nil_or_concat id.toList with hnil | ⟨front, c, hlast⟩
    · rw [hnil]
      rfl
    · have hc := hid.untrimmed
      rw [hlast, List.concat_eq_append, List.getLast?_concat, Option.any_some] at hc
      rw [hlast, List.concat_eq_append, ← List.cons_append]
      exact List.rdropWhile_concat_neg _ _ _ (by rw [hc]; decide)
  rw [hend, List.filter_eq_self]
  refine List.forall_mem_cons.2 ⟨by decide, fun c hc ↦ ?_⟩
  rw [Bool.eq_false_of_not_eq_true (List.any_eq_false.1 hid.undropped c hc), Bool.not_false]

theorem IsSent.parts {id : String} (hid : IsSent id) :
    Text.parts isSlash id.toList = [id.toList] := by
  apply parts_of_forall
  intro c hc
  have hslash : c ≠ '/' := fun heq ↦ hid.slash (heq ▸ hc)
  have hbackslash : c ≠ '\\' := fun heq ↦ hid.backslash (heq ▸ hc)
  rw [isSlash, decide_eq_false hslash, decide_eq_false hbackslash, Bool.or_false]

/-- The path of an address goes on where that of all alarms ends. -/
theorem behindAuthority_append (rest : List Char) :
    ∃ front, ∀ more, behindAuthority (rest ++ tail ++ more) =
      front ++ '/' :: ("alarms".toList ++ more) := by
  refine ⟨((rest ++ "/v2".toList).dropWhile isSlash).dropWhile (!endsAuthority ·), fun more ↦ ?_⟩
  rw [behindAuthority, dropWhile_isSlash_append, List.append_assoc, List.cons_append]
  exact dropWhile_append_cons (by decide)

/-- The path of a single alarm is that of all alarms with the id as one more segment. -/
theorem IsSent.path_behindAuthority {id : String} (hid : IsSent id) (rest : List Char) :
    path (behindAuthority (rest ++ tail ++ '/' :: id.toList)) =
      path (behindAuthority (rest ++ tail)) ++ '/' :: encode keptInPath id.toList := by
  obtain ⟨front, hbehind⟩ := behindAuthority_append rest
  obtain ⟨segments, hpath⟩ := exists_path_append front
  have hlast : Text.parts isSlash "alarms".toList = ["alarms".toList] := by decide
  have hboth : Text.parts isSlash ("alarms".toList ++ '/' :: id.toList) =
      ["alarms".toList, id.toList] := by
    rw [parts_append_cons (by decide), hlast, hid.parts]
    rfl
  have hnone := hbehind []
  rw [List.append_nil, List.append_nil] at hnone
  rw [hbehind, hnone, hpath, hpath, hlast, hboth,
    resolveSegments_append ⟨by decide, by decide⟩ hid.dots, List.flatMap_append,
    List.flatMap_singleton]

/-- Where all alarms can be asked for, so can each whose id is sent as it stands. -/
theorem ofUrl?_append_segment {base id target : String} (hbase : IsUnmarked base) (hid : IsSent id)
    (h : ofUrl? (base ++ "/v2/alarms") = some target) :
    ofUrl? (base ++ "/v2/alarms/" ++ id) =
      some (target ++ "/" ++ String.ofList (encode keptInPath id.toList)) := by
  obtain ⟨cs, hscheme, hauthority⟩ := (isSome_ofUrl?_iff _).1 (Option.isSome_of_eq_some h)
  obtain ⟨start, hclean, hmore⟩ := cleaned_append base.toList
  rw [String.toList_append, hclean] at hscheme
  obtain ⟨rest, rfl, hrest⟩ := afterScheme?_append hscheme
  have hall : ofUrl? (base ++ "/v2/alarms") =
      some (String.ofList (path (behindAuthority (rest ++ tail)))) := by
    refine ofUrl?_of_isUnmarked (isUnmarked_append.2 ⟨hbase, by decide⟩) ?_ hauthority
    rw [String.toList_append, hclean, hscheme]
  have hone : ofUrl? (base ++ "/v2/alarms/" ++ id) =
      some (String.ofList (path (behindAuthority (rest ++ tail ++ '/' :: id.toList)))) := by
    have htext : (base ++ "/v2/alarms/" ++ id).toList =
        base.toList ++ tail ++ '/' :: id.toList := by
      rw [String.toList_append, String.toList_append, List.append_assoc, List.append_assoc]
      rfl
    refine ofUrl?_of_isUnmarked (isUnmarked_alarm.2 ⟨hbase, hid.toIsUnmarked⟩) ?_ ?_
    · rw [htext, hmore, hid.cleaned, hrest]
    · rw [authority_append]
      exact hauthority
  rw [h] at hall
  rw [hone, hid.path_behindAuthority, ← List.singleton_append, String.ofList_append,
    String.ofList_append, Option.some.inj hall, String.append_assoc]

/-- Of ids that are sent as they stand, different ones are asked for differently, and none is asked
for as all alarms are. -/
theorem IsSent.eq_of_ofUrl?_eq {base id other : String} (hbase : IsUnmarked base)
    (hask : (ofUrl? (base ++ "/v2/alarms")).isSome) (hid : IsSent id) (hother : IsSent other)
    (h : ofUrl? (base ++ "/v2/alarms/" ++ id) = ofUrl? (base ++ "/v2/alarms/" ++ other)) :
    id = other := by
  obtain ⟨target, htarget⟩ := Option.isSome_iff_exists.1 hask
  rw [ofUrl?_append_segment hbase hid htarget, ofUrl?_append_segment hbase hother htarget] at h
  have hencoded := String.ofList_injective ((String.append_right_inj _).1 (Option.some.inj h))
  have hdecoded := congrArg Escape.decoded hencoded
  rw [Escape.decoded_encode _ hid.escape, Escape.decoded_encode _ hother.escape] at hdecoded
  apply bytes_injective
  rw [bytes_eq_flatMap, bytes_eq_flatMap]
  exact hdecoded

theorem IsSent.ofUrl?_ne {base id : String} (hbase : IsUnmarked base)
    (hask : (ofUrl? (base ++ "/v2/alarms")).isSome) (hid : IsSent id) :
    ofUrl? (base ++ "/v2/alarms/" ++ id) ≠ ofUrl? (base ++ "/v2/alarms") := by
  obtain ⟨target, htarget⟩ := Option.isSome_iff_exists.1 hask
  rw [ofUrl?_append_segment hbase hid htarget, htarget]
  intro h
  have hlength := congrArg String.length (Option.some.inj h)
  rw [String.length_append, String.length_append] at hlength
  have hslash : "/".length = 1 := rfl
  omega

end MeteringAlarms.Http.Target
