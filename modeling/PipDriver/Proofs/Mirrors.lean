import PipDriver.Proofs.Orders

/-!
The addresses in a plan. Those of three options are read, and have a host that is not empty. Of a mirror only the
beginning is looked at, and what stands behind it reaches pip whether a host can be read there or not.
-/

namespace PipDriver

namespace Address

structure Sound (address : Address) : Prop where
  scheme : address.scheme ∈ schemes
  host : address.host ≠ .domain []
  port : ∀ port, address.port = some port → port ≤ 65535

def hostAndPort? (rest : Text) : Option (Host × Option Nat) :=
  let (hostText, portText) := splitHost false (withoutUser (authority rest))
  if hostText = [] then none
  else match Host.parse? hostText, port? portText with
    | some host, some port => some (host, port)
    | _, _ => none

/-- Without controls and spaces at the end, and without tabs and line breaks. -/
def cleanedEnd (text : Text) : Text :=
  (text.reverse.dropWhile isControlOrSpace).reverse.filter fun character => !isBreak character

section

variable {scheme rest text : Text} {address : Address} {host : Host} {port : Option Nat}

theorem parse?_of_scheme (split : splitScheme? (cleaned text) = some (scheme, rest)) (known : scheme ∈ schemes) :
    parse? text = (hostAndPort? rest).map fun read => ⟨scheme, read.1, read.2⟩ := by
  simp only [parse?, split, known, if_true, hostAndPort?]
  split
  · rfl
  · cases Host.parse? _ with
    | none => rfl
    | some host => cases port? _ <;> rfl

theorem scheme_of_parse? (read : parse? text = some address) :
    ∃ scheme rest, splitScheme? (cleaned text) = some (scheme, rest) ∧ scheme ∈ schemes := by
  unfold parse? at read
  split at read
  · cases read
  · rename_i scheme rest split
    by_cases known : scheme ∈ schemes
    · exact ⟨scheme, rest, split, known⟩
    · rw [if_neg known] at read
      cases read

-- A name in an address is refused where nothing is left of it, so what is read is not empty.
theorem host_of_parse? (read : Host.parse? text = some host) : host ≠ .domain [] := by
  rintro rfl
  unfold Host.parse? at read
  split at read
  · split at read <;> cases read
  · split at read
    · cases read
    · split at read
      · cases read
      · cases read
      · rename_i empty _
        split at read
        · split at read <;> cases read
        · cases read
          exact empty rfl

theorem port_of_port? (read : port? text = some port) (number : Nat) (given : port = some number) : number ≤ 65535 := by
  subst given
  unfold port? at read
  split at read
  · cases read
  · cases read
  · split at read
    · rename_i proper
      simp only [Bool.and_eq_true, decide_eq_true_eq] at proper
      cases read
      exact proper.2
    · cases read
  · cases read

theorem hostAndPort_sound (read : hostAndPort? rest = some (host, port)) :
    host ≠ .domain [] ∧ ∀ number, port = some number → number ≤ 65535 := by
  simp only [hostAndPort?] at read
  split at read
  · cases read
  · split at read
    · rename_i named numbered
      cases read
      exact ⟨host_of_parse? named, port_of_port? numbered⟩
    · cases read

theorem sound_of_parse? (read : parse? text = some address) : address.Sound := by
  obtain ⟨scheme, rest, split, known⟩ := scheme_of_parse? read
  rw [parse?_of_scheme split known, Option.map_eq_some_iff] at read
  obtain ⟨⟨host, port⟩, named, rfl⟩ := read
  exact ⟨known, (hostAndPort_sound named).1, (hostAndPort_sound named).2⟩

end

theorem cleaned_http (rest : Text) : cleaned (("http://" : Text) ++ rest) = ("http://" : Text) ++ cleanedEnd rest := by
  have start : (("http://" : Text) ++ rest).dropWhile isControlOrSpace = ("http://" : Text) ++ rest := rfl
  have last : (("http://" : Text) ++ rest).reverse.dropWhile isControlOrSpace =
      rest.reverse.dropWhile isControlOrSpace ++ ("http://" : Text).reverse := by
    rw [List.reverse_append, List.dropWhile_append]
    split
    · rename_i empty
      rw [List.isEmpty_iff.mp empty]
      rfl
    · rfl
  rw [cleaned, start, last, List.reverse_append, List.reverse_reverse, List.filter_append]
  rfl

theorem hostAndPort?_slashes (rest : Text) : hostAndPort? (("//" : Text) ++ rest) = hostAndPort? rest := rfl

theorem parse?_http (rest : Text) : parse? (("http://" : Text) ++ rest) =
    (hostAndPort? (cleanedEnd rest)).map fun read => ⟨"http", read.1, read.2⟩ := by
  have split : splitScheme? (cleaned (("http://" : Text) ++ rest)) =
      some (("http" : Text), ("//" : Text) ++ cleanedEnd rest) := by
    rw [cleaned_http]
    rfl
  rw [parse?_of_scheme split (by decide), hostAndPort?_slashes]

end Address

namespace InstallRequest

variable {world : World} {request : InstallRequest}

theorem parse?_of_demanded {option : InstallOption} {field : AddressOption} {value : Option Text} {text : Text}
    (demanded : request.demands option = (Tokens.given value).toList.map (.address field))
    (kept : (request.demands option).findSome? (Rule.breach? world) = none) (given : text ≠ [])
    (said : value = some text) : (Address.parse? text).isSome = true := by
  have named : Tokens.given value = some text := Tokens.given_eq_some_iff.mpr ⟨said, given⟩
  simpa [demanded, named, Rule.breach?, Option.isSome_iff_ne_none] using kept

/-- What is asked of mirrors is asked of nothing else, and of the others nothing changes with them. -/
theorem demands_with_mirrors (mirrors : Option ItemList) {option : InstallOption} (other : option ≠ .mirrors) :
    ({ request with mirrors } : InstallRequest).demands option = request.demands option := by
  cases option with
  | mirrors => exact (other rfl).elim
  | _ => rfl

theorem mirrors_kept_iff (world : World) (request : InstallRequest) (mirrors : Option ItemList) :
    (({ request with mirrors } : InstallRequest).demands .mirrors).findSome? (Rule.breach? world) = none ↔
      ∀ mirror ∈ ItemList.itemsOf mirrors, mirror.startsWith "http://" = true := by
  simp only [demands, List.findSome?_map, List.findSome?_eq_none_iff, Function.comp_apply, Rule.breach?]
  refine forall₂_congr fun mirror _ => ?_
  cases Text.startsWith mirror "http://" with
  | false => exact iff_of_false (Option.some_ne_none _) Bool.false_ne_true
  | true => exact iff_of_true rfl rfl

/-- Where a request has a plan, it has one with other mirrors too, if they begin right. -/
theorem exists_plan_with_mirrors_iff {plan : Plan} (planned : request.plan world = .ok plan)
    (mirrors : Option ItemList) : (∃ plan, ({ request with mirrors } : InstallRequest).plan world = .ok plan) ↔
      ∀ mirror ∈ ItemList.itemsOf mirrors, mirror.startsWith "http://" = true := by
  have kept := (rules_kept_iff world request).mp ((exists_plan_iff world request).mp ⟨plan, planned⟩)
  obtain ⟨purpose, unnamed, kept⟩ := kept
  rw [exists_plan_iff, rules_kept_iff, ← mirrors_kept_iff world request]
  constructor
  · rintro ⟨-, -, also⟩
    exact also .mirrors
  · intro proper
    refine ⟨purpose, unnamed, fun option => ?_⟩
    by_cases same : option = .mirrors
    · exact same ▸ proper
    · rw [demands_with_mirrors mirrors same]
      exact kept option

theorem mirror_mem_trailing {plan : Plan} (planned : request.plan world = .ok plan) {mirror : Text}
    (among : mirror ∈ ItemList.itemsOf request.mirrors) : ("--mirrors=" : Text) ++ mirror ∈ plan.trailing := by
  obtain ⟨rfl, sound⟩ := whole_of_plan planned
  refine List.mem_flatMap.mpr ⟨.mirrors, by decide, ?_⟩
  rw [part, Tokens.accepted_mirrors (sound .mirrors), if_neg (List.ne_nil_of_mem among)]
  exact List.mem_cons_of_mem _ (List.mem_map_of_mem among)

end InstallRequest

/-- The addresses of three options can be read before they reach pip, and what is read is sound. The mirrors reach pip
as they are: each begins with a scheme, and it can be read just if a host and a port can be read behind that, but no
more than the beginning is asked of them. -/
theorem mirrors_reach_unread {world : World} {request : InstallRequest} {plan : Plan}
    (planned : request.plan world = .ok plan) :
    (∀ text ≠ [], some text ∈ [request.findLinks, request.indexUrl, request.extraIndexUrl] →
      ∃ address, Address.parse? text = some address ∧ address.Sound) ∧
    (∀ name ∈ (["--index-url", "--extra-index-url", "--find-links"] : List Text), ∀ text,
      name ++ '=' :: text ∈ plan.trailing → ∃ address, Address.parse? text = some address ∧ address.Sound) ∧
    (∀ mirror ∈ ItemList.itemsOf request.mirrors, ("--mirrors=" : Text) ++ mirror ∈ plan.trailing ∧
      ∃ rest, mirror = ("http://" : Text) ++ rest ∧ Address.parse? mirror =
        (Address.hostAndPort? (Address.cleanedEnd rest)).map fun read => ⟨"http", read.1, read.2⟩) ∧
    ∀ mirrors, (∃ plan, ({ request with mirrors } : InstallRequest).plan world = .ok plan) ↔
      ∀ mirror ∈ ItemList.itemsOf mirrors, mirror.startsWith "http://" = true := by
  have kept := (InstallRequest.exists_plan_iff world request).mp ⟨plan, planned⟩
  obtain ⟨-, unnamed, kept⟩ := (InstallRequest.rules_kept_iff world request).mp kept
  have sound {text : Text} (read : (Address.parse? text).isSome = true) :
      ∃ address, Address.parse? text = some address ∧ address.Sound := by
    obtain ⟨address, read⟩ := Option.isSome_iff_exists.mp read
    exact ⟨address, read, Address.sound_of_parse? read⟩
  refine ⟨fun text given among => sound ?_, fun name among text member => sound ?_, fun mirror among => ?_,
    InstallRequest.exists_plan_with_mirrors_iff planned⟩
  · simp only [List.mem_cons, List.not_mem_nil, or_false] at among
    rcases among with said | said | said
    · exact InstallRequest.parse?_of_demanded rfl (kept .findLinks) given said.symm
    · exact InstallRequest.parse?_of_demanded rfl (kept .indexUrl) given said.symm
    · exact InstallRequest.parse?_of_demanded rfl (kept .extraIndexUrl) given said.symm
  · obtain ⟨rfl, -⟩ := InstallRequest.whole_of_plan planned
    have vouched : Vouched (request.optionTokens world none) := InstallRequest.vouched_optionTokens unnamed none
    exact vouched.addresses name among text (List.mem_append_right _ member)
  · have proper := (InstallRequest.exists_plan_with_mirrors_iff planned request.mirrors).mp ⟨plan, planned⟩ mirror among
    obtain ⟨rest, rfl⟩ := List.isPrefixOf_iff_prefix.mp proper
    exact ⟨InstallRequest.mirror_mem_trailing planned among, rest, rfl, Address.parse?_http rest⟩

def mirroredRequest : InstallRequest where
  packages := some (.joined "six")
  findLinks := some "ftp://host:21/links"
  mirrors := some (.joined "http://a b, http://")

theorem mirrors_reach_unread_bare :
    let world : World := { disk := {}, host := { folder := [] } }
    ∃ plan : Plan, mirroredRequest.plan world = .ok plan ∧
      (∃ address, Address.parse? "ftp://host:21/links" = some address ∧ address.Sound) ∧
      ("--mirrors=http://" : Text) ∈ plan.trailing ∧
      ∃ other : Plan, InstallRequest.plan world { mirroredRequest with mirrors := some (.joined "http://?") } =
        .ok other := by
  intro world
  have planned : mirroredRequest.plan world = .ok (mirroredRequest.wholePlan world) := by decide +kernel
  obtain ⟨read, -, mirrors, others⟩ := mirrors_reach_unread planned
  exact ⟨_, planned, read "ftp://host:21/links" (by decide) (by simp [mirroredRequest]),
    (mirrors "http://" (by decide +kernel)).1, (others (some (.joined "http://?"))).mpr (by decide +kernel)⟩

/-- Mirrors without a host, with a host that is none, and with a port that is none are accepted, and cannot be read. -/
theorem mirrors_without_host :
    let world : World := { disk := {}, host := { folder := [] } }
    let mirrors := ItemList.many ["http://", "http://a b", "http://h:99999"]
    let request : InstallRequest := { packages := some (.joined "six"), mirrors := some mirrors }
    (∃ plan, request.plan world = .ok plan) ∧ ∀ mirror ∈ mirrors.items, Address.parse? mirror = none := by
  intro world mirrors request
  exact ⟨⟨request.wholePlan world, by decide +kernel⟩, by decide +kernel⟩

end PipDriver
