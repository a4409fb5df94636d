import Mathlib
import ScreenFlow.Platform
import ScreenFlow.Proofs.Outcome

namespace ScreenFlow

/-! Where requests go. Every request of a client whose base has a scheme goes to an address with
one, and a path of safe characters can be joined to any base that can be asked itself, as long as no
part of the address becomes too long. -/

open Outcome

namespace Address

/-! ## Schemes -/

/-- The address has a scheme, in which nothing stands that would end it. -/
structure Schemed (address : Address) : Prop where
  given : address.scheme ≠ []
  plain : ∀ character ∈ address.scheme, character ≠ ':' ∧ character ≠ '/'

theorem toLower_ne {character mark : Char} (other : character ≠ mark)
    (noLetter : mark.isLower = false) : character.toLower ≠ mark := by
  rintro rfl
  by_cases capital : character.isUpper = true
  · rw [Char.isLower_toLower_eq_isAlpha, Char.isAlpha, capital] at noLetter
    cases noLetter
  · exact other (Char.toLower_eq_of_not_isUpper capital).symm

variable {address base result : Address} {scheme authority path text rest : List Char}
  {query fragment : Option (List Char)}

theorem scheme_of_ofParts
    (made : ofParts scheme authority path query fragment = .ok result) :
    result.scheme = scheme.map Char.toLower := by
  rw [ofParts] at made
  rcases bind_eq_ok.mp made with ⟨host, -, made⟩
  rcases bind_eq_ok.mp made with ⟨service, -, made⟩
  dsimp only at made
  split at made
  · cases made
  · split at made
    · cases made
    · rw [← pure_eq_ok.mp made]

theorem schemed_of_ofParts (made : ofParts scheme authority path query fragment = .ok result)
    (given : scheme ≠ []) (plain : ∀ character ∈ scheme, character ≠ ':' ∧ character ≠ '/') :
    result.Schemed := by
  have lowered := scheme_of_ofParts made
  constructor
  · simpa [lowered] using given
  · rw [lowered, List.forall_mem_map]
    intro character member
    exact ⟨toLower_ne (plain character member).1 (by decide),
      toLower_ne (plain character member).2 (by decide)⟩

theorem plain_of_inScheme {character : Char} (inside : inScheme character = true) :
    character ≠ ':' ∧ character ≠ '/' := by
  constructor
  · rintro rfl
    revert inside
    decide
  · rintro rfl
    revert inside
    decide

theorem eq_of_splitScheme (split : splitScheme text = (scheme, rest)) (given : scheme ≠ []) :
    text = scheme ++ ':' :: rest ∧ (∀ character ∈ scheme, inScheme character = true) ∧
      scheme.head?.all Char.isAlpha = true := by
  have whole := @List.takeWhile_append_dropWhile _ inScheme text
  rw [splitScheme] at split
  split at split
  · next colon after =>
      split at split
      · next alpha =>
          rcases Prod.mk.inj split with ⟨rfl, rfl⟩
          rw [after] at whole
          exact ⟨whole.symm, fun _ member => List.mem_takeWhile_imp member, alpha⟩
      · exact absurd (Prod.mk.inj split).1.symm given
  · exact absurd (Prod.mk.inj split).1.symm given

theorem splitScheme_append (inside : ∀ character ∈ scheme, inScheme character = true)
    (alpha : scheme.head?.all Char.isAlpha = true) (rest : List Char) :
    splitScheme (scheme ++ ':' :: rest) = (scheme, rest) := by
  have stops : inScheme ':' = false := by decide
  have front : (scheme ++ ':' :: rest).takeWhile inScheme = scheme := by
    simp [List.takeWhile_append_of_pos inside, stops]
  have back : (scheme ++ ':' :: rest).dropWhile inScheme = ':' :: rest := by
    simp [List.dropWhile_append_of_pos inside, stops]
  rw [splitScheme, front, back]
  simp [alpha]

theorem exists_of_read {text : String} (made : read text = .ok result) :
    ∃ authority path query fragment,
      ofParts (splitScheme text.toList).1 authority path query fragment = .ok result := by
  rw [read] at made
  dsimp only at made
  split at made
  · cases made
  · exact ⟨_, _, _, _, made⟩

theorem scheme_of_read {text : String} (made : read text = .ok result) :
    result.scheme = (splitScheme text.toList).1.map Char.toLower := by
  rcases exists_of_read made with ⟨authority, path, query, fragment, parts⟩
  exact scheme_of_ofParts parts

theorem schemed_of_read {text : String} (made : read text = .ok result)
    (given : result.scheme ≠ []) : result.Schemed := by
  rcases exists_of_read made with ⟨authority, path, query, fragment, parts⟩
  have present : (splitScheme text.toList).1 ≠ [] := by
    intro absent
    rw [scheme_of_ofParts parts, absent] at given
    exact given rfl
  exact schemed_of_ofParts parts present fun character member =>
    plain_of_inScheme ((eq_of_splitScheme rfl present).2.1 character member)

namespace Schemed

variable (schemed : base.Schemed)

include schemed

theorem replace (made : base.replace path query = .ok result) : result.Schemed := by
  rw [Address.replace] at made
  split at made
  · cases made
  · exact schemed_of_ofParts made schemed.given schemed.plain

theorem asBase (made : base.asBase = .ok result) : result.Schemed := by
  rw [Address.asBase] at made
  split at made
  · rw [← Except.ok.inj made]
    exact schemed
  · exact schemed.replace made

theorem join {relative : String} (made : base.join relative = .ok result) : result.Schemed := by
  rw [Address.join] at made
  rcases bind_eq_ok.mp made with ⟨address, given, made⟩
  split at made
  · next absolute =>
      rw [isAbsolute, Bool.and_eq_true, Bool.not_eq_true', List.isEmpty_eq_false_iff] at absolute
      rw [← pure_eq_ok.mp made]
      exact schemed_of_read given absolute.1
  · exact schemed.replace made

theorem beginsWithScheme_text : beginsWithScheme base.text = true := by
  let inside (character : Char) : Bool := character ≠ ':' && character ≠ '/'
  have scheme_inside : ∀ character ∈ base.scheme, inside character = true := by
    intro character member
    have plain := schemed.plain character member
    simp [inside, plain.1, plain.2]
  have begins : ∃ rest, base.text.toList = base.scheme ++ ':' :: rest := by
    rw [Address.text, String.toList_ofList, if_neg (by simpa using schemed.given)]
    simp
  rcases begins with ⟨rest, begins⟩
  have front : base.text.toList.takeWhile inside = base.scheme := by
    rw [begins, List.takeWhile_append_of_pos scheme_inside]
    simp [inside]
  have back : base.text.toList.dropWhile inside = ':' :: rest := by
    rw [begins, List.dropWhile_append_of_pos scheme_inside]
    simp [inside]
  change (!(base.text.toList.takeWhile inside).isEmpty &&
    (base.text.toList.dropWhile inside).head? = some ':') = true
  rw [front, back]
  simpa using schemed.given

end Schemed

/-! ## Plain paths -/

def inSteps (character : Char) : Bool := Percent.isUnreserved character || character = '/'

/-- A path of characters that stand for themselves, which cannot be taken for an authority. -/
structure Plain (path : List Char) : Prop where
  inside : ∀ character ∈ path, inSteps character = true
  single : ¬ "//".toList <+: path

theorem ne_of_inSteps {character mark : Char} (inside : inSteps character = true)
    (outside : inSteps mark = false) : character ≠ mark := by
  rintro rfl
  rw [inside] at outside
  cases outside

theorem le_toNat_of_inSteps {character : Char} (inside : inSteps character = true) :
    45 ≤ character.toNat := by
  simp only [inSteps, Percent.isUnreserved, Char.isAlphanum, Char.isAlpha, Char.isUpper,
    Char.isLower, Char.isDigit, Bool.or_eq_true, Bool.and_eq_true, decide_eq_true_eq,
    UInt32.le_iff_toNat_le, ge_iff_le] at inside
  change (((((((65 ≤ character.toNat ∧ _) ∨ (97 ≤ character.toNat ∧ _)) ∨
    (48 ≤ character.toNat ∧ _)) ∨ _) ∨ _) ∨ _) ∨ _) ∨ _ at inside
  rcases inside with (((((((capital | small) | digit) | rfl) | rfl) | rfl) | rfl) | rfl)
  · omega
  · omega
  · omega
  all_goals decide

theorem hasControl_of_inside (inside : ∀ character ∈ path, inSteps character = true) :
    hasControl path = false := by
  rw [hasControl, List.any_eq_false]
  intro character member
  rw [Bool.or_eq_true, decide_eq_true_eq, decide_eq_true_eq, not_or]
  refine ⟨fun below => ?_, ne_of_inSteps (inside character member) (by decide)⟩
  have high := le_toNat_of_inSteps (inside character member)
  have low : character.toNat < 32 := below
  omega

theorem quote_of_inside (inside : ∀ character ∈ path, inSteps character = true) :
    Percent.quote inPath path = path := by
  induction path with
  | nil => rfl
  | cons character path induction =>
      rw [List.forall_mem_cons] at inside
      have safe : (Percent.isUnreserved character || inPath character) = true := by
        rcases Bool.or_eq_true _ _ |>.mp inside.1 with unreserved | slash
        · rw [unreserved, Bool.true_or]
        · rw [of_decide_eq_true slash]
          decide
      have unescaped : character ≠ '%' := ne_of_inSteps inside.1 (by decide)
      rw [Percent.quote, Percent.quote.quoteChar, if_pos safe, induction inside.2]
      · rfl
      · exact fun _ _ _ escape => absurd escape unescaped

theorem ofParts_of_path (single : ¬ "//".toList <+: path) (plain : path.head? ≠ some ':') :
    ofParts [] [] path none none =
      .ok ⟨[], [], [], none, Percent.quote inPath path, none, none⟩ := by
  have fine : (("//".toList.isPrefixOf path) || decide (path.head? = some ':')) = false := by
    rw [Bool.or_eq_false_iff, decide_eq_false_iff_not, Bool.eq_false_iff, ne_eq,
      List.isPrefixOf_iff_prefix]
    exact ⟨single, plain⟩
  change (if ("//".toList.isPrefixOf path || decide (path.head? = some ':')) = true then
    Except.error Fault.malformedAddress else .ok _) = _
  rw [fine]
  rfl

theorem read_of_plain {text : String} (plain : Plain text.toList)
    (short : text.toList.length ≤ maxLength) :
    read text = .ok ⟨[], [], [], none, text.toList, none, none⟩ := by
  have absent : ∀ mark, inSteps mark = false → mark ∉ text.toList := by
    intro mark outside member
    exact ne_of_inSteps (plain.inside mark member) outside rfl
  have unschemed : splitScheme text.toList = ([], text.toList) := by
    rw [splitScheme]
    split
    · next rest after =>
        have colon : ':' ∈ text.toList := (List.dropWhile_sublist _).subset (by rw [after]; simp)
        exact absurd colon (absent ':' (by decide))
    · rfl
  have unowned : splitAuthority text.toList = ([], text.toList) := by
    rw [splitAuthority]
    exact fun rest begins => plain.single ⟨rest, begins.symm⟩
  have whole : splitPath text.toList = (text.toList, none, none) := by
    have before (mark : Char) (outside : inSteps mark = false) :
        text.toList.takeWhile (· ≠ mark) = text.toList :=
      List.takeWhile_eq_self_iff.mpr fun character member => decide_eq_true fun same =>
        absent mark outside (same ▸ member)
    have lacks (mark : Char) (outside : inSteps mark = false) :
        text.toList.contains mark = false := by simpa using absent mark outside
    simp only [splitPath, before '#' (by decide), before '?' (by decide), lacks '#' (by decide),
      lacks '?' (by decide)]
    rfl
  have fine : (hasControl text.toList || decide (maxLength < text.toList.length)) = false := by
    rw [hasControl_of_inside plain.inside, Bool.false_or, decide_eq_false (by omega)]
  rw [read]
  simp only [fine, unschemed, unowned, whole]
  have colonless : text.toList.head? ≠ some ':' := fun first =>
    absent ':' (by decide) (List.mem_of_mem_head? first)
  exact (ofParts_of_path plain.single colonless).trans (by rw [quote_of_inside plain.inside])

/-! ## Continuing a base -/

structure Short (target : List Char) : Prop where
  path : (target.takeWhile (· ≠ '?')).length ≤ maxLength
  query : ((target.dropWhile (· ≠ '?')).drop 1).length ≤ maxLength

theorem replace_eq_ok : base.replace path query = .ok result ↔
    (∀ part ∈ [base.scheme, base.authority, path] ++ query.toList ++ base.fragment.toList,
      part.length ≤ maxLength) ∧
      ofParts base.scheme base.authority path query base.fragment = .ok result := by
  rw [replace]
  split
  · next long =>
      rw [List.any_eq_true] at long
      rcases long with ⟨part, member, long⟩
      have exceeding := of_decide_eq_true long
      exact iff_of_false (by simp) fun given => absurd (given.1 part member) (by omega)
  · next short =>
      rw [Bool.not_eq_true, List.any_eq_false] at short
      refine (and_iff_right fun part member => ?_).symm
      simpa using short part member

theorem exists_ofParts_of_head {path' : List Char} (query' : Option (List Char))
    (made : ofParts scheme authority path query fragment = .ok result) (given : scheme ≠ [])
    (same : path'.head? = path.head?) :
    ∃ other, ofParts scheme authority path' query' fragment = .ok other ∧
      other.host = result.host := by
  have present : scheme.isEmpty = false := by simpa using given
  have empty : path'.isEmpty = path.isEmpty := by
    cases path <;> cases path' <;> simp_all
  dsimp only [ofParts] at made ⊢
  rcases bind_eq_ok.mp made with ⟨host, normal, made⟩
  rcases bind_eq_ok.mp made with ⟨service, served, made⟩
  rw [normal, ok_bind, served, ok_bind, same, empty]
  split at made
  · cases made
  · next rooted =>
      rw [if_neg rooted, if_neg (by simp [present])]
      rw [if_neg (by simp [present])] at made
      rw [← pure_eq_ok.mp made]
      exact ⟨_, rfl, rfl⟩

theorem head?_takeWhile_append (stays : Char → Bool) {front : List Char} (filled : front ≠ [])
    (back : List Char) :
    ((front ++ back).takeWhile stays).head? = (front.takeWhile stays).head? := by
  cases front with
  | nil => exact absurd rfl filled
  | cons first front =>
      rw [List.cons_append, List.takeWhile_cons, List.takeWhile_cons]
      cases stays first <;> rfl

theorem short_of_withTarget {target : List Char} (made : base.withTarget target = .ok result) :
    Short target := by
  have short := (replace_eq_ok.mp made).1
  constructor
  · exact short _ (by simp)
  · by_cases asked : target.contains '?' = true
    · exact short _ (by rw [if_pos asked]; simp)
    · have whole : target.dropWhile (· ≠ '?') = [] := by
        rw [List.dropWhile_eq_nil_iff]
        intro character member
        refine decide_eq_true fun same => asked ?_
        simpa [same] using member
      rw [whole]
      exact Nat.zero_le _

theorem exists_withTarget_append {target rest : List Char} {root : Address}
    (asked : base.withTarget target = .ok root) (given : base.scheme ≠ []) (filled : target ≠ [])
    (short : Short (target ++ rest)) :
    ∃ address, base.withTarget (target ++ rest) = .ok address ∧ address.host = root.host := by
  rcases replace_eq_ok.mp asked with ⟨fit, made⟩
  have head := head?_takeWhile_append (· ≠ '?') filled rest
  rcases exists_ofParts_of_head (if (target ++ rest).contains '?' then
    some (((target ++ rest).dropWhile (· ≠ '?')).drop 1) else none) made given head with
    ⟨address, other, host⟩
  refine ⟨address, replace_eq_ok.mpr ⟨fun part member => ?_, other⟩, host⟩
  simp only [List.mem_append, List.mem_cons, List.not_mem_nil, or_false, Option.mem_toList]
    at member
  rcases member with ((rfl | rfl | rfl) | inside) | inside
  · exact fit _ (by simp)
  · exact fit _ (by simp)
  · exact short.path
  · split at inside
    · rw [← Option.some.inj inside]
      exact short.query
    · cases inside
  · exact fit _ (by simp [inside])

theorem target_ne_nil (address : Address) : address.target ≠ [] := by
  rw [target]
  cases filled : address.path <;> simp

theorem read_eq_error_of_long {text : String} (long : maxLength < text.toList.length) :
    read text = .error .malformedAddress := by
  rw [read]
  exact if_pos (by rw [decide_eq_true long, Bool.or_true])

theorem join_of_plain {text : String} (plain : Plain text.toList)
    (short : text.toList.length ≤ maxLength) :
    base.join text = base.withTarget (base.target ++ text.toList.dropWhile (· = '/')) := by
  have rest : (if text.toList.isEmpty then ['/'] else text.toList).dropWhile (· = '/') =
      text.toList.dropWhile (· = '/') := by
    split
    · next empty => rw [List.isEmpty_iff.mp empty]; rfl
    · rfl
  rw [join, read_of_plain plain short, ok_bind, ← rest]
  simp [isAbsolute, target]

end Address

namespace Settings

/-- The platform is given by an absolute address that is spoken to over HTTP. -/
def Addressed (settings : Settings) : Prop :=
  ∃ address, Address.read settings.baseUrl = .ok address ∧ address.isAbsolute = true ∧
    (address.scheme = "http".toList ∨ address.scheme = "https".toList)

theorem exists_dropWhile_append (stops : Char → Bool) {mark : Char} (kept : stops mark = false)
    (front back : List Char) :
    ∃ rest, (front ++ mark :: back).dropWhile stops = rest ++ mark :: back := by
  rw [List.dropWhile_append]
  split
  · exact ⟨[], by simp [kept]⟩
  · exact ⟨front.dropWhile stops, rfl⟩

theorem exists_apiRoot_eq {settings : Settings} {scheme rest : List Char}
    (base : settings.baseUrl.toList = scheme ++ ':' :: rest) :
    ∃ rest, settings.apiRoot.toList = scheme ++ ':' :: rest := by
  have colon : decide (':' = '/') = false := by decide
  rcases exists_dropWhile_append (· = '/') colon rest.reverse scheme.reverse with ⟨left, dropped⟩
  have turned : settings.baseUrl.toList.reverse = rest.reverse ++ ':' :: scheme.reverse := by
    simp [base]
  refine ⟨left.reverse ++ ('/' :: settings.apiVersion.toList ++ ['/']), ?_⟩
  rw [apiRoot, turned, dropped]
  simp [toString]

theorem schemed_of_apiRoot {settings : Settings} (addressed : settings.Addressed)
    {address : Address} (made : Address.read settings.apiRoot = .ok address) :
    address.Schemed := by
  rcases addressed with ⟨given, read, absolute, -⟩
  rw [Address.isAbsolute, Bool.and_eq_true, Bool.not_eq_true', List.isEmpty_eq_false_iff]
    at absolute
  have present : (Address.splitScheme settings.baseUrl.toList).1 ≠ [] := by
    intro absent
    rw [Address.scheme_of_read read, absent] at absolute
    exact absolute.1 rfl
  rcases Address.eq_of_splitScheme rfl present with ⟨whole, inside, alpha⟩
  rcases exists_apiRoot_eq whole with ⟨rest, root⟩
  refine Address.schemed_of_read made ?_
  rw [Address.scheme_of_read made, root, Address.splitScheme_append inside alpha]
  exact fun lowered => present (List.map_eq_nil_iff.mp lowered)

end Settings

namespace Platform.Client

variable {settings : Settings} {boundary : String} {client : Client} {call : Call}
  {request : Http.Request}

theorem ofSettings_eq_ok (made : ofSettings settings boundary = .ok client) :
    ∃ address, Address.read settings.apiRoot = .ok address ∧ address.asBase = .ok client.base ∧
      client = ⟨settings, client.base, boundary, false⟩ := by
  rw [ofSettings] at made
  split at made
  · cases made
  · rcases bind_eq_ok.mp made with ⟨address, read, made⟩
    rcases bind_eq_ok.mp made with ⟨base, based, made⟩
    rw [← pure_eq_ok.mp made]
    exact ⟨address, read, based, rfl⟩

theorem schemed_of_ofSettings (addressed : settings.Addressed)
    (made : ofSettings settings boundary = .ok client) : client.base.Schemed := by
  rcases ofSettings_eq_ok made with ⟨address, read, based, -⟩
  exact (Settings.schemed_of_apiRoot addressed read).asBase based

def addressOf (client : Client) (call : Call) : Except Fault Address := do
  let address ← client.base.join call.path
  if call.query.isEmpty then pure address else address.withQuery call.query

theorem request_eq_ok : client.request call = .ok request ↔
    ∃ address body, client.addressOf call = .ok address ∧
      address.host.all Text.Punycode.isBasic = true ∧
      call.body.bytes client.boundary = .ok body ∧ client.closed = false ∧
      request = {
        method := call.method
        address := address.text
        authorization := address.authorization.or client.settings.authorization
        contentType := call.body.contentType client.boundary
        body } := by
  have opened : client.request call = client.addressOf call >>= fun address =>
      if !address.host.all Text.Punycode.isBasic then .error .unencodable
      else call.body.bytes client.boundary >>= fun body =>
        if client.closed then .error .closed
        else .ok {
          method := call.method
          address := address.text
          authorization := address.authorization.or client.settings.authorization
          contentType := call.body.contentType client.boundary
          body } := by
    rw [Client.request, addressOf, bind_assoc]
    refine bind_congr fun joined => ?_
    cases call.query.isEmpty <;> rfl
  rw [opened, bind_eq_ok]
  refine exists_congr fun address => ?_
  rw [exists_and_left]
  refine and_congr_right fun _ => ?_
  cases address.host.all Text.Punycode.isBasic
  · simp
  · rw [Bool.not_true, if_neg Bool.false_ne_true, bind_eq_ok]
    refine exists_congr fun body => ?_
    cases client.closed <;> simp [eq_comm]

theorem beginsWithScheme_of_request (schemed : client.base.Schemed)
    (made : client.request call = .ok request) :
    Address.beginsWithScheme request.address = true := by
  rcases request_eq_ok.mp made with ⟨address, body, found, -, -, -, rfl⟩
  rcases bind_eq_ok.mp found with ⟨joined, join, queried⟩
  have reached : address.Schemed := by
    split at queried
    · rw [← pure_eq_ok.mp queried]
      exact schemed.join join
    · exact (schemed.join join).replace queried
  exact reached.beginsWithScheme_text

def Reachable (client : Client) : Prop := Succeeds (client.request ⟨.get, "", [], .empty⟩)

structure Reaches (client : Client) (path : String) : Prop where
  alone : path.toList.length ≤ Address.maxLength
  whole : Address.Short (client.base.target ++ path.toList.dropWhile (· = '/'))

theorem succeeds_request_iff {method : Http.Method} {path : String} {body : Http.Body}
    (schemed : client.base.Schemed) (reachable : client.Reachable)
    (plain : Address.Plain path.toList) (encoded : Succeeds (body.bytes client.boundary)) :
    Succeeds (client.request ⟨method, path, [], body⟩) ↔ client.Reaches path := by
  have addressed (method : Http.Method) (path : String) (body : Http.Body) :
      client.addressOf ⟨method, path, [], body⟩ = client.base.join path := by
    rw [addressOf]
    cases client.base.join path <;> rfl
  constructor
  · intro given
    rcases given with ⟨request, made⟩
    rcases request_eq_ok.mp made with ⟨address, -, found, -⟩
    rw [addressed] at found
    by_cases short : path.toList.length ≤ Address.maxLength
    · rw [Address.join_of_plain plain short] at found
      exact ⟨short, Address.short_of_withTarget found⟩
    · rw [Address.join, Address.read_eq_error_of_long (by omega)] at found
      cases found
  · intro reaches
    rcases reachable with ⟨root, asked⟩
    rcases encoded with ⟨content, encoded⟩
    rcases request_eq_ok.mp asked with ⟨base, -, found, basic, -, opened, -⟩
    rw [addressed, Address.join_of_plain ⟨by simp, by decide⟩ (Nat.zero_le _)] at found
    rw [show "".toList.dropWhile (· = '/') = [] from rfl, List.append_nil] at found
    rcases Address.exists_withTarget_append found schemed.given client.base.target_ne_nil
      reaches.whole with ⟨address, continued, host⟩
    refine ⟨_, request_eq_ok.mpr ⟨address, content, ?_, by rw [host, basic], encoded, opened,
      rfl⟩⟩
    rw [addressed, Address.join_of_plain plain reaches.alone, continued]

end Platform.Client

end ScreenFlow
