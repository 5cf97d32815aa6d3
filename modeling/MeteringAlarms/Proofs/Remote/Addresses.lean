import MeteringAlarms.Alarm.Remote
import MeteringAlarms.Proofs.Http.Target
import MeteringAlarms.Settings.Basic

/-!
# Addresses of the alarm service

Of an endpoint only the scheme is checked, and what is asked for is written behind it once the
slashes at its end are gone.  The host is kept by this unless there is none: then the slashes of
the scheme go as well, and what comes next is taken for the host.  An id is written as it stands, so
it is the name of an alarm only as long as nothing in it means something in an address.
-/

namespace MeteringAlarms

namespace Http.Address

open Text

def schemes : List String := ["http:", "https:"]

/-- A character that ends no authority: neither the path nor the query nor the fragment begins
with it. -/
def isWithin (c : Char) : Bool :=
  c ≠ '/' && c ≠ '?' && c ≠ '#'

/-- What stands behind the two slashes of an address. -/
def authority (text : String) : String :=
  String.ofList (((text.toList.dropWhile (· ≠ '/')).drop 2).takeWhile isWithin)

/-- The address is one of the host that the endpoint is on. -/
structure IsAt (endpoint url : String) : Prop where
  lead : ∃ scheme ∈ schemes, startsWith url (scheme ++ "//" ++ authority endpoint) = true
  host : authority url = authority endpoint

/-- Only slashes follow the scheme. -/
def IsBare (endpoint : String) : Prop :=
  (endpoint.toList.dropWhile (· ≠ '/')).all (· == '/') = true

instance : DecidablePred IsBare := fun _ ↦ inferInstanceAs (Decidable (_ = true))

/-! ### Slashes at the end -/

/-- Slashes at the end begin neither a query nor a fragment. -/
theorem isUnmarked_dropTrailing {text : String} :
    IsUnmarked (dropTrailing text '/') ↔ IsUnmarked text := by
  have hmem {c : Char} (hc : c ≠ '/') :
      c ∈ (dropTrailing text '/').toList ↔ c ∈ text.toList := by
    have hends : c ∉ text.toList.rtakeWhile (· == '/') :=
      fun hmem ↦ hc (beq_iff_eq.1 (List.mem_rtakeWhile_imp (p := (· == '/')) hmem))
    conv_rhs => rw [← List.rdropWhile_append_rtakeWhile (p := (· == '/')) (l := text.toList)]
    rw [toList_dropTrailing, List.mem_append, or_iff_left hends]
  have hquery := not_congr (hmem (by decide : '?' ≠ '/'))
  have hfragment := not_congr (hmem (by decide : '#' ≠ '/'))
  exact ⟨fun h ↦ ⟨hquery.1 h.query, hfragment.1 h.fragment⟩,
    fun h ↦ ⟨hquery.2 h.query, hfragment.2 h.fragment⟩⟩

/-- Slashes at the end are behind the authority, as is what is written in their place. -/
theorem takeWhile_isWithin_rdropWhile (cs more : List Char) :
    (cs.rdropWhile (· == '/') ++ '/' :: more).takeWhile isWithin = cs.takeWhile isWithin := by
  have hends : ∀ c ∈ (cs.rtakeWhile (· == '/')).head?, isWithin c = false := by
    intro c hc
    have hslash := List.mem_rtakeWhile_imp (p := (· == '/')) (List.mem_of_mem_head? hc)
    rw [beq_iff_eq.1 hslash]
    rfl
  have hslash : ∀ c ∈ ('/' :: more).head?, isWithin c = false := by
    rintro _ ⟨⟩
    rfl
  conv_rhs => rw [← List.rdropWhile_append_rtakeWhile (p := (· == '/')) (l := cs)]
  rw [takeWhile_append_of_head? hends, takeWhile_append_of_head? hslash]

/-! ### Endpoints with a scheme -/

section Scheme

variable {scheme : String} (hscheme : scheme ∈ schemes)

include hscheme

theorem dropWhile_scheme (more : List Char) :
    (scheme.toList ++ '/' :: more).dropWhile (· ≠ '/') = '/' :: more := by
  have hall : ∀ scheme ∈ schemes, '/' ∉ scheme.toList := by decide
  have hnil : scheme.toList.dropWhile (· ≠ '/') = [] := by
    rw [List.dropWhile_eq_nil_iff]
    exact fun c hc ↦ decide_eq_true fun heq ↦ hall scheme hscheme (heq ▸ hc)
  rw [dropWhile_append_cons (by decide), hnil, List.nil_append]

variable {endpoint : String} {rest : List Char}
  (hendpoint : endpoint.toList = scheme.toList ++ '/' :: '/' :: rest)

include hendpoint

theorem toList_authority : (authority endpoint).toList = rest.takeWhile isWithin := by
  rw [authority, String.toList_ofList, hendpoint, dropWhile_scheme hscheme]
  rfl

theorem isBare_iff : IsBare endpoint ↔ ∀ c ∈ rest, c = '/' := by
  rw [IsBare, hendpoint, dropWhile_scheme hscheme]
  simp

theorem rdropWhile_of_isBare (h : IsBare endpoint) :
    endpoint.toList.rdropWhile (· == '/') = scheme.toList := by
  have hall : ∀ scheme ∈ schemes, scheme.toList.rdropWhile (· == '/') = scheme.toList := by decide
  have hslashes : ∀ c ∈ '/' :: '/' :: rest, (c == '/') = true := by
    simpa using (isBare_iff hscheme hendpoint).1 h
  rw [hendpoint, rdropWhile_append_of_forall hslashes, hall scheme hscheme]

theorem rdropWhile_of_not_isBare (h : ¬IsBare endpoint) :
    endpoint.toList.rdropWhile (· == '/') =
      scheme.toList ++ '/' :: '/' :: rest.rdropWhile (· == '/') := by
  rw [isBare_iff hscheme hendpoint] at h
  obtain ⟨c, hmem, hc⟩ : ∃ c ∈ rest, (c == '/') = false := by
    simpa using h
  have hsplit (more : List Char) :
      scheme.toList ++ '/' :: '/' :: more = (scheme ++ "//").toList ++ more := by
    rw [String.toList_append, List.append_assoc]
    rfl
  rw [hendpoint, hsplit, rdropWhile_append_of_mem hmem hc, hsplit]

/-- An address whose host is that of the endpoint begins with a scheme and the host. -/
theorem isAt_of_takeWhile_eq {url : String} {more : List Char}
    (hurl : url.toList = scheme.toList ++ '/' :: '/' :: more)
    (hhost : more.takeWhile isWithin = rest.takeWhile isWithin) : IsAt endpoint url := by
  have hauthority : authority url = authority endpoint := by
    rw [← String.toList_inj, toList_authority hscheme hurl, hhost,
      toList_authority hscheme hendpoint]
  have hmore : (authority url).toList ++ more.dropWhile isWithin = more := by
    rw [toList_authority hscheme hurl, List.takeWhile_append_dropWhile]
  have htext :
      url = scheme ++ "//" ++ authority url ++ String.ofList (more.dropWhile isWithin) := by
    rw [← String.toList_inj, String.toList_append, String.toList_append, String.toList_append,
      String.toList_ofList (l := more.dropWhile isWithin), List.append_assoc, hmore, hurl,
      List.append_assoc]
    rfl
  rw [hauthority] at htext
  exact ⟨⟨scheme, hscheme, startsWith_iff.2 ⟨_, htext⟩⟩, hauthority⟩

/-- What is asked for behind an endpoint is on its host just when more than slashes follow the
scheme. -/
theorem isAt_iff (more : String) :
    IsAt endpoint (dropTrailing endpoint '/' ++ "/v2/alarms" ++ more) ↔ ¬IsBare endpoint := by
  have hurl : (dropTrailing endpoint '/' ++ "/v2/alarms" ++ more).toList =
      endpoint.toList.rdropWhile (· == '/') ++
        '/' :: 'v' :: ("2/alarms".toList ++ more.toList) := by
    rw [String.toList_append, String.toList_append, toList_dropTrailing, List.append_assoc]
    rfl
  constructor
  · rintro ⟨⟨other, hother, hlead⟩, -⟩ hbare
    obtain ⟨behind, hbehind⟩ := startsWith_iff.1 hlead
    rw [rdropWhile_of_isBare hscheme hendpoint hbare, hbehind, String.toList_append,
      String.toList_append, String.toList_append, List.append_assoc, List.append_assoc] at hurl
    have hslashed := congrArg (List.dropWhile (· ≠ '/')) hurl
    rw [dropWhile_scheme hscheme] at hslashed
    -- The second slash of the scheme would be the letter that is written behind the first one.
    cases (dropWhile_scheme hother _).symm.trans hslashed
  · intro hmore
    rw [rdropWhile_of_not_isBare hscheme hendpoint hmore, List.append_assoc, List.cons_append,
      List.cons_append] at hurl
    exact isAt_of_takeWhile_eq hscheme hendpoint hurl (takeWhile_isWithin_rdropWhile _ _)

end Scheme

end Http.Address

theorem Settings.validate_scheme {settings : Settings} (h : settings.validate = .ok ()) :
    ∃ scheme ∈ Http.Address.schemes, ∃ rest,
      settings.endpoint.toList = scheme.toList ++ '/' :: '/' :: rest := by
  have hsplit {lead : String} (hlead : Text.startsWith settings.endpoint lead = true) :
      ∃ rest, settings.endpoint.toList = lead.toList ++ rest := by
    obtain ⟨rest, hrest⟩ := Text.startsWith_iff.1 hlead
    exact ⟨rest.toList, by rw [hrest, String.toList_append]⟩
  rw [validate] at h
  cases hhttp : Text.startsWith settings.endpoint "http://" with
  | true =>
    obtain ⟨rest, hrest⟩ := hsplit hhttp
    exact ⟨"http:", by decide, rest, hrest⟩
  | false =>
    cases hhttps : Text.startsWith settings.endpoint "https://" with
    | true =>
      obtain ⟨rest, hrest⟩ := hsplit hhttps
      exact ⟨"https:", by decide, rest, hrest⟩
    | false =>
      rw [hhttp, hhttps] at h
      split at h <;> cases h

namespace RemoteAlarms

open Http Http.Address

/-- What is asked for is on the host of the endpoint unless the endpoint is bare, and is the same
for any number of slashes at its end.  The address of an alarm names the alarm just when its id is
plain and the endpoint has neither a query nor a fragment.  Ids that are sent as they are are told
apart, and from all alarms, by what is asked for. -/
theorem addresses_of_valid_endpoint {settings : Settings} (hvalid : settings.validate = .ok ()) :
    let remote := ofEndpoint settings.endpoint settings.token?
    (∀ n, ofEndpoint (settings.endpoint ++ String.ofList (List.replicate n '/')) settings.token? =
      remote) ∧
    (IsAt settings.endpoint remote.collectionUrl ↔ ¬IsBare settings.endpoint) ∧
    (∀ id, IsAt settings.endpoint (remote.alarmUrl id) ↔ ¬IsBare settings.endpoint) ∧
    (∀ id, (ofText (remote.alarmUrl id)).Names id ↔ IsUnmarked settings.endpoint ∧ IsPlain id) ∧
    (IsUnmarked settings.endpoint → (Target.ofUrl? remote.collectionUrl).isSome →
      ∀ id, Target.IsSent id →
        Target.ofUrl? (remote.alarmUrl id) ≠ Target.ofUrl? remote.collectionUrl ∧
        ∀ other, Target.IsSent other →
          Target.ofUrl? (remote.alarmUrl id) = Target.ofUrl? (remote.alarmUrl other) →
            id = other) := by
  intro remote
  obtain ⟨scheme, hscheme, rest, hendpoint⟩ := settings.validate_scheme hvalid
  have hbase : IsUnmarked remote.base ↔ IsUnmarked settings.endpoint := isUnmarked_dropTrailing
  refine ⟨fun n ↦ ?_, ?_, fun id ↦ ?_, fun id ↦ ?_, fun hunmarked hask id hid ↦ ⟨?_, ?_⟩⟩
  · rw [ofEndpoint, Text.dropTrailing_append_replicate]
    rfl
  · have hall := isAt_iff hscheme hendpoint ""
    rw [String.append_empty] at hall
    exact hall
  · have hsplit : "/v2/alarms/" ++ id = "/v2/alarms" ++ ("/" ++ id) := by
      rw [← String.append_assoc]
      rfl
    rw [alarmUrl, String.append_assoc, hsplit, ← String.append_assoc]
    exact isAt_iff hscheme hendpoint _
  · rw [← hbase]
    exact names_iff
  · exact hid.ofUrl?_ne (hbase.2 hunmarked) hask
  · intro other hother h
    exact hid.eq_of_ofUrl?_eq (hbase.2 hunmarked) hask hother h

theorem addresses_of_valid_endpoint_of_two_alarms :
    let settings : Settings := { endpoint := "https://alarms/" }
    let remote := ofEndpoint settings.endpoint settings.token?
    settings.validate = .ok () ∧
    (Target.ofUrl? remote.collectionUrl).isSome ∧ Target.IsSent "a b" ∧ Target.IsSent "c" ∧
    remote = ofEndpoint "https://alarms///" none ∧
    IsAt settings.endpoint (remote.alarmUrl "a b") ∧
    (ofText (remote.alarmUrl "a b")).Names "a b" ∧
    Target.ofUrl? (remote.alarmUrl "a b") ≠ Target.ofUrl? remote.collectionUrl ∧
    Target.ofUrl? (remote.alarmUrl "a b") ≠ Target.ofUrl? (remote.alarmUrl "c") := by
  intro settings remote
  have hvalid : settings.validate = .ok () := by decide +kernel
  have hask : (Target.ofUrl? remote.collectionUrl).isSome := by decide +kernel
  have hspaced : Target.IsSent "a b" := ⟨by decide, by decide, by decide, by decide, by decide⟩
  have hletter : Target.IsSent "c" := ⟨by decide, by decide, by decide, by decide, by decide⟩
  obtain ⟨hslashes, -, hat, hnames, hsent⟩ := addresses_of_valid_endpoint hvalid
  obtain ⟨hall, hother⟩ := hsent (by decide) hask _ hspaced
  refine ⟨hvalid, hask, hspaced, hletter, (hslashes 2).symm, (hat _).2 (by decide),
    (hnames _).2 ⟨by decide, hspaced.toIsPlain⟩, hall, fun h ↦ ?_⟩
  exact absurd (hother _ hletter h) (by decide)

/-- An id may end in a query or a fragment, or lead back to all alarms, and where the endpoint is
only a scheme its slashes are cut off. -/
theorem addresses_go_astray :
    let remote := ofEndpoint "http://alarms" none
    let bare := ofEndpoint "http://" none
    ({ endpoint := "http://alarms" } : Settings).validate = .ok () ∧
    (ofText (remote.alarmUrl "a?b")).query? = some "b".toList ∧
    Target.ofUrl? (remote.alarmUrl "a#b") = Target.ofUrl? (remote.alarmUrl "a") ∧
    Target.ofUrl? (remote.alarmUrl "../alarms") = Target.ofUrl? remote.collectionUrl ∧
    ({ endpoint := "http://" } : Settings).validate = .ok () ∧
    bare.collectionUrl = "http:/v2/alarms" ∧ ¬IsAt "http://" bare.collectionUrl := by
  intro remote bare
  have hscheme : "http:" ∈ schemes := by decide
  have hendpoint : "http://".toList = "http:".toList ++ ['/', '/'] := rfl
  have hbare : ¬IsAt "http://" bare.collectionUrl :=
    fun hat ↦ (isAt_iff hscheme hendpoint "").1 hat (by decide)
  refine ⟨by decide +kernel, by decide +kernel, by decide +kernel, by decide +kernel,
    by decide +kernel, by decide +kernel, hbare⟩

end RemoteAlarms

end MeteringAlarms
