import Switchboard.LongPoll.Transport
import Switchboard.Proofs.Queries

/-!
# Addresses, taken apart

An address is an endpoint, the path of its transport and the pairs of a query.  Pairs may be added one
list after another: only the first comes behind a `?`.  The query has no slash, so the last path of a
websocket in an address is the one that was put behind the endpoint, whatever stands in the endpoint or in
the query, and the address of the long-poll transport has the same query.

Main definitions

* `Json.queryPairs`: the pairs of parameters;
* `Query.withPairs`: a URL with pairs behind it;
* `Query.readUrl?`: the pairs of a URL.

Main results

* `Query.withPairs_withPairs`: pairs behind pairs;
* `endpointWithQuery_eq`: the address of a connection;
* `replaceLast?_append`: what the last occurrence of a path is;
* `longPollEndpoint_transposes`: the address of the long-poll transport.
-/

set_option autoImplicit false

namespace Switchboard

/-- The pairs that parameters leave in a query. -/
def Json.queryPairs (params : Json) : List (String × String) :=
  params.parameters.map (Json.leafPair none)

namespace Query

/-! ### Pairs behind a URL -/

/-- The mark in front of a query. -/
def mark (url : String) : String := if '?' ∈ url.toList then "&" else "?"

/-- A URL with pairs behind it. -/
def withPairs (url : String) (pairs : List (String × String)) : String :=
  if pairs = [] then url else url ++ mark url ++ String.ofList (text pairs)

/-- The query of a URL stands behind the first `?` and in front of a fragment. -/
def ofUrl (url : String) : List Char :=
  ((url.toList.takeWhile (· ≠ '#')).dropWhile (· ≠ '?')).drop 1

/-- The pairs of a URL. -/
def readUrl? (url : String) : Option (List (String × String)) := read? (ofUrl url)

variable {url : String} {pairs more : List (String × String)}

theorem text_append (h : pairs ≠ []) (hmore : more ≠ []) :
    text (pairs ++ more) = text pairs ++ '&' :: text more := by
  rw [← join_text, join_of_ne_nil (mt text_eq_nil_iff.1 h) (mt text_eq_nil_iff.1 hmore)]

theorem withPairs_of_ne_nil (h : pairs ≠ []) :
    withPairs url pairs = url ++ mark url ++ String.ofList (text pairs) := if_neg h

theorem appendQuery_text (url : String) (pairs : List (String × String)) :
    appendQuery url (String.ofList (text pairs)) = withPairs url pairs := by
  have hempty : String.ofList (text pairs) = "" ↔ pairs = [] := by
    rw [← String.toList_eq_nil_iff, String.toList_ofList, text_eq_nil_iff]
  unfold appendQuery withPairs mark
  split_ifs <;> simp_all

theorem appendParams_eq (url : String) (params : Json) :
    appendParams url params = withPairs url params.queryPairs := by
  rw [appendParams, ← String.ofList_toList (s := serializeParams params none), serializeParams_eq,
    appendQuery_text]
  rfl

/-- Once there are pairs, there is a `?`. -/
theorem mark_withPairs (h : pairs ≠ []) : mark (withPairs url pairs) = "&" := by
  rw [withPairs_of_ne_nil h, mark, if_pos]
  by_cases hurl : '?' ∈ url.toList
  · simp [hurl]
  · simp [mark, hurl]

/-- Pairs behind pairs are pairs in a row. -/
theorem withPairs_withPairs (url : String) (pairs more : List (String × String)) :
    withPairs (withPairs url pairs) more = withPairs url (pairs ++ more) := by
  by_cases h : pairs = []
  · simp [h, withPairs]
  by_cases hmore : more = []
  · simp [hmore, withPairs]
  rw [withPairs_of_ne_nil hmore, mark_withPairs h, withPairs_of_ne_nil h,
    withPairs_of_ne_nil (List.append_ne_nil_of_left_ne_nil h more), text_append h hmore,
    ← String.toList_inj]
  simp

theorem withPairs_of_notMem (hquery : '?' ∉ url.toList) (h : pairs ≠ []) :
    withPairs url pairs = url ++ "?" ++ String.ofList (text pairs) := by
  rw [withPairs_of_ne_nil h, mark, if_neg hquery]

theorem dropWhile_eq_nil {cs : List Char} (h : '?' ∉ cs) : cs.dropWhile (· ≠ '?') = [] := by
  refine List.dropWhile_eq_nil_iff.2 fun c hc => ?_
  have hne : c ≠ '?' := fun heq => h (heq ▸ hc)
  simpa using hne

theorem ofUrl_eq_nil (hquery : '?' ∉ url.toList) : ofUrl url = [] := by
  have hfront : '?' ∉ url.toList.takeWhile (· ≠ '#') := fun h =>
    hquery ((List.takeWhile_sublist _).subset h)
  rw [ofUrl, dropWhile_eq_nil hfront, List.drop_nil]

/-- What stands behind the first `?` is the query, up to a fragment. -/
theorem ofUrl_append {query : List Char} (hquery : '?' ∉ url.toList) (hfragment : '#' ∉ url.toList)
    (hnone : '#' ∉ query) : ofUrl (url ++ "?" ++ String.ofList query) = query := by
  have htext : (url ++ "?" ++ String.ofList query).toList = url.toList ++ '?' :: query := by simp
  have hall : ∀ c ∈ url.toList ++ '?' :: query, c ≠ '#' := by
    rintro _ hc rfl
    rcases List.mem_append.1 hc with hc | hc
    · exact hfragment hc
    · exact hnone ((List.mem_cons.1 hc).resolve_left (by decide))
  rw [ofUrl, htext, List.takeWhile_eq_self_iff.2 (by simpa using hall), List.dropWhile_append,
    dropWhile_eq_nil hquery]
  simp

/-- The pairs of a URL are read back. -/
theorem readUrl?_withPairs (hquery : '?' ∉ url.toList) (hfragment : '#' ∉ url.toList) :
    readUrl? (withPairs url pairs) = some pairs := by
  have hof : ofUrl (withPairs url pairs) = text pairs := by
    by_cases h : pairs = []
    · rw [withPairs, if_pos h, ofUrl_eq_nil hquery, h, text_nil]
    · rw [withPairs_of_notMem hquery h,
        ofUrl_append hquery hfragment (notMem_text (by decide) (by decide) pairs)]
  rw [readUrl?, hof, read?_text]

end Query

open Query

/-! ### The address of a connection -/

/-- The pairs behind an endpoint: the parameters, and then the version. -/
def connectionPairs (params : Json) (version : String) : List (String × String) :=
  params.queryPairs ++ [("vsn", version)]

theorem queryPairs_singleton (key value : String) :
    (Json.object [(key, .string value)]).queryPairs = [(key, value)] := by
  simp [Json.queryPairs, Json.parameters, Json.leaves, Json.memberLeaves, Json.behind, Json.leafPair,
    Json.pathText, Json.bracketed, Json.Step.text]

theorem connectionPairs_ne_nil (params : Json) (version : String) :
    connectionPairs params version ≠ [] := by simp [connectionPairs]

theorem endpointWithQuery_eq (endpoint : String) (params : Json) (version : String) :
    endpointWithQuery endpoint params version
      = withPairs endpoint (connectionPairs params version) := by
  rw [endpointWithQuery, appendParams_eq, appendParams_eq, withPairs_withPairs,
    queryPairs_singleton, connectionPairs]

/-! ### What an address takes from an origin -/

/-- What an address takes from the origin of the page. -/
inductive Completion where
  | nothing
  | scheme
  | host
  deriving DecidableEq, Repr

namespace Completion

/-- Two slashes take the scheme only, and a single one takes the host, too. -/
def ofChars (cs : List Char) : Completion :=
  if "//".toList.isPrefixOf cs then .scheme
  else if "/".toList.isPrefixOf cs then .host
  else .nothing

/-- An address with what it takes from an origin; nothing if the origin does not have that. -/
def complete? (c : Completion) (origin : Option Origin) (uri : String) : Option String :=
  match c, origin with
  | .nothing, _ => some uri
  | .scheme, some o => some (websocketScheme o ++ ":" ++ uri)
  | .host, some o => o.authorityText?.map fun authority =>
    websocketScheme o ++ "://" ++ authority ++ uri
  | .scheme, none | .host, none => none

/-- The path behind an endpoint counts, too: it is a slash behind nothing, and a second one behind a
slash. -/
def ofEndpoint (endpoint : String) : Completion :=
  if endpoint = "" then .host
  else if endpoint = "/" then .scheme
  else ofChars endpoint.toList

theorem ofChars_append {cs : List Char} (hempty : cs ≠ []) (hslash : cs ≠ ['/'])
    (rest : List Char) : ofChars (cs ++ rest) = ofChars cs := by
  match cs with
  | [c] =>
    have hc : '/' ≠ c := fun heq => hslash (by rw [heq])
    simp [ofChars, hc]
  | c :: d :: cs => simp [ofChars]

theorem ofChars_websocket (endpoint : String) (rest : List Char) :
    ofChars (endpoint.toList ++ (websocketPath.toList ++ rest)) = ofEndpoint endpoint := by
  unfold ofEndpoint
  split_ifs with hempty hslash
  · rw [hempty]
    rfl
  · rw [hslash]
    rfl
  · refine ofChars_append (mt String.toList_eq_nil_iff.1 hempty) (fun heq => hslash ?_) _
    rw [← String.toList_inj, heq]
    rfl

end Completion

theorem toList_withPairs (url : String) (pairs : List (String × String)) :
    ∃ rest, (withPairs url pairs).toList = url.toList ++ rest := by
  unfold withPairs
  split_ifs
  · exact ⟨[], (List.append_nil _).symm⟩
  · exact ⟨(mark url).toList ++ text pairs, by simp⟩

/-- An address is the endpoint with its query, completed by the origin. -/
theorem endpointUrl_eq (endpoint : String) (params : Json) (version : String)
    (origin : Option Origin) :
    endpointUrl endpoint params version origin =
      match (Completion.ofChars (withPairs endpoint (connectionPairs params version)).toList).complete?
        origin (withPairs endpoint (connectionPairs params version)) with
      | some url => .ok url
      | none => .error (.relativeEndpoint endpoint) := by
  rw [← endpointWithQuery_eq]
  unfold endpointUrl isRelative
  generalize endpointWithQuery endpoint params version = uri
  dsimp only
  have htwo : "//".toList.isPrefixOf uri.toList = true → "/".toList.isPrefixOf uri.toList = true := by
    simp only [List.isPrefixOf_iff_prefix]
    exact (show "/".toList <+: "//".toList from ⟨['/'], rfl⟩).trans
  -- Only what the two tests say of the address matters from here on.
  unfold Completion.ofChars
  revert htwo
  generalize "//".toList.isPrefixOf uri.toList = two
  generalize "/".toList.isPrefixOf uri.toList = one
  intro htwo
  match one, two, origin with
  | false, true, _ => cases htwo rfl
  | false, false, _ => rfl
  | true, two, none => cases two <;> rfl
  | true, true, some o => rfl
  | true, false, some o =>
    simp only [Completion.complete?, Bool.not_true, Bool.false_eq_true, if_false, if_true]
    cases o.authorityText? <;> rfl

/-- What is in front of the query decides what an address takes from the origin. -/
theorem endpointUrl_websocketEndpoint (endpoint : String) (params : Json) (version : String)
    (origin : Option Origin) :
    endpointUrl (websocketEndpoint endpoint) params version origin =
      match (Completion.ofEndpoint endpoint).complete? origin
        (withPairs (websocketEndpoint endpoint) (connectionPairs params version)) with
      | some url => .ok url
      | none => .error (.relativeEndpoint (websocketEndpoint endpoint)) := by
  obtain ⟨rest, hrest⟩ := toList_withPairs (websocketEndpoint endpoint) (connectionPairs params version)
  rw [endpointUrl_eq, hrest, websocketEndpoint, String.toList_append, List.append_assoc,
    Completion.ofChars_websocket]

/-- The address that a token is put behind. -/
theorem url_of_token (l : LongPoll) (token : String) :
    ({ l with token := some token } : LongPoll).url = withPairs l.endpoint [("token", token)] := by
  simp only [LongPoll.url, appendParams_eq, queryPairs_singleton]

/-! ### The last path of a websocket -/

section Replace

variable {c : Char} {old new front tail cs : List Char}

theorem replaceLast?_eq_none (h : c ∉ cs) : replaceLast? (c :: old) new cs = none := by
  induction cs with
  | nil => rfl
  | cons d cs ih =>
    obtain ⟨hd, hcs⟩ := not_or.1 (mt List.mem_cons.2 h)
    rw [replaceLast?, ih hcs]
    simp [replaceFront?, List.isPrefixOf, hd]

/-- A text is the last of its kind if what follows its first character does not have that. -/
theorem replaceLast?_append (hold : c ∉ old) (htail : c ∉ tail) :
    replaceLast? (c :: old) new (front ++ (c :: old ++ tail)) = some (front ++ (new ++ tail)) := by
  induction front with
  | nil =>
    have hrest : c ∉ old ++ tail := fun h => (List.mem_append.1 h).elim hold htail
    rw [List.nil_append, List.cons_append, replaceLast?, replaceLast?_eq_none hrest]
    simp [replaceFront?, List.isPrefixOf]
  | cons d front ih =>
    rw [List.cons_append, replaceLast?, ih]
    rfl

end Replace

/-! ### The address of the long-poll transport -/

/-- The scheme of a websocket. -/
def socketFront (secure : Bool) : String := if secure then "wss://" else "ws://"

/-- The scheme of plain requests. -/
def requestFront (secure : Bool) : String := if secure then "https://" else "http://"

theorem requestScheme_append (secure : Bool) (cs : List Char) :
    requestScheme ((socketFront secure).toList ++ cs) = (requestFront secure).toList ++ cs := by
  cases secure <;> rfl

theorem longPollEndpoint_append (secure : Bool) (rest : String) {tail : List Char}
    (h : '/' ∉ tail) :
    longPollEndpoint (socketFront secure ++ rest ++ websocketPath ++ String.ofList tail)
      = requestFront secure ++ rest ++ longPollPath ++ String.ofList tail := by
  have hpath : websocketPath.toList = '/' :: "websocket".toList := rfl
  have hlast : replaceLast? ('/' :: "websocket".toList) longPollPath.toList
      ((requestFront secure).toList ++ rest.toList ++ ('/' :: "websocket".toList ++ tail))
        = some ((requestFront secure).toList ++ rest.toList ++ (longPollPath.toList ++ tail)) :=
    replaceLast?_append (by decide) h
  have hscheme : requestScheme (socketFront secure ++ rest ++ websocketPath ++ String.ofList tail).toList
      = (requestFront secure).toList ++ rest.toList ++ ('/' :: "websocket".toList ++ tail) := by
    simp only [String.toList_append, String.toList_ofList, List.append_assoc, requestScheme_append,
      hpath]
  rw [longPollEndpoint, hscheme, hpath, hlast, ← String.toList_inj]
  simp

/-- A mark of a query or of a fragment stands in no front and in no path, so only the rest of an endpoint
may have one. -/
theorem notMem_address {c : Char} (hc : c = '?' ∨ c = '#') {rest : String} (hrest : c ∉ rest.toList)
    (secure : Bool) :
    c ∉ (socketFront secure ++ rest ++ websocketPath).toList ∧
      c ∉ (requestFront secure ++ rest ++ longPollPath).toList := by
  have hfixed : c ∉ (socketFront secure).toList ∧ c ∉ websocketPath.toList ∧
      c ∉ (requestFront secure).toList ∧ c ∉ longPollPath.toList := by
    rcases hc with rfl | rfl <;> cases secure <;> decide
  simp [hrest, hfixed]

/-- The pairs have no slash, so the path behind the endpoint is the one that is replaced. -/
theorem longPollEndpoint_withPairs (secure : Bool) {rest : String} (hquery : '?' ∉ rest.toList)
    {pairs : List (String × String)} (h : pairs ≠ []) :
    longPollEndpoint (withPairs (socketFront secure ++ rest ++ websocketPath) pairs)
      = withPairs (requestFront secure ++ rest ++ longPollPath) pairs := by
  obtain ⟨hsocket, hrequest⟩ := notMem_address (Or.inl rfl) hquery secure
  have hslash : '/' ∉ '?' :: text pairs := fun hmem =>
    notMem_text (by decide) (by decide) pairs ((List.mem_cons.1 hmem).resolve_left (by decide))
  have hmark : String.ofList ('?' :: text pairs) = "?" ++ String.ofList (text pairs) :=
    String.toList_inj.1 (by simp)
  have hreplaced := longPollEndpoint_append secure rest hslash
  rw [hmark, ← String.append_assoc, ← String.append_assoc] at hreplaced
  rw [withPairs_of_notMem hsocket h, withPairs_of_notMem hrequest h, hreplaced]

/-- An endpoint with the scheme of a websocket takes nothing from an origin. -/
theorem ofEndpoint_socketFront (secure : Bool) (rest : String) :
    Completion.ofEndpoint (socketFront secure ++ rest) = .nothing := by
  rw [← Completion.ofChars_websocket _ [], String.toList_append]
  cases secure <;> rfl

/--
The address of the long-poll transport is that of the websocket, transposed: the scheme of plain
requests, the rest of the endpoint as it is, the path of the transport and the same query.  With a token,
the query is read back as the parameters, the version and the token.
-/
theorem longPollEndpoint_transposes (secure : Bool) (rest : String) (params : Json)
    (version token : String) (origin : Option Origin) (timeout : Nat) (hquery : '?' ∉ rest.toList)
    (hfragment : '#' ∉ rest.toList) :
    ∃ url query : String,
      endpointUrl (websocketEndpoint (socketFront secure ++ rest)) params version origin = .ok url ∧
      url = socketFront secure ++ rest ++ "/websocket?" ++ query ∧
      longPollEndpoint url = requestFront secure ++ rest ++ "/longpoll?" ++ query ∧
      (LongPoll.new url timeout).url = longPollEndpoint url ∧
      readUrl? (longPollEndpoint url) = some (params.queryPairs ++ [("vsn", version)]) ∧
      ({ LongPoll.new url timeout with token := some token } : LongPoll).url
        = requestFront secure ++ rest ++ "/longpoll?" ++ query ++ "&token="
          ++ String.ofList (percentEncode token) ∧
      readUrl? ({ LongPoll.new url timeout with token := some token } : LongPoll).url
        = some (params.queryPairs ++ [("vsn", version), ("token", token)]) := by
  set pairs := connectionPairs params version
  have hne : pairs ≠ [] := connectionPairs_ne_nil params version
  obtain ⟨hsocket, hrequest⟩ := notMem_address (Or.inl rfl) hquery secure
  have hread := (notMem_address (Or.inr rfl) hfragment secure).2
  have hpoll := longPollEndpoint_withPairs secure hquery hne
  refine ⟨withPairs (socketFront secure ++ rest ++ websocketPath) pairs, String.ofList (text pairs),
    ?_, ?_, ?_, rfl, ?_, ?_, ?_⟩
  · rw [endpointUrl_websocketEndpoint, ofEndpoint_socketFront]
    rfl
  · rw [withPairs_of_notMem hsocket hne, ← String.toList_inj]
    simp [websocketPath]
  · rw [hpoll, withPairs_of_notMem hrequest hne, ← String.toList_inj]
    simp [longPollPath]
  · rw [hpoll, readUrl?_withPairs hrequest hread]
    rfl
  · have htoken : percentEncode "token" = "token".toList := by decide
    rw [url_of_token, LongPoll.new, hpoll, withPairs_withPairs,
      withPairs_of_notMem hrequest (List.append_ne_nil_of_left_ne_nil hne _),
      text_append hne (by simp), text_singleton, pair, htoken, ← String.toList_inj]
    simp [longPollPath]
  · rw [url_of_token, LongPoll.new, hpoll, withPairs_withPairs, readUrl?_withPairs hrequest hread]
    simp [pairs, connectionPairs]

/-- An endpoint with a path of a websocket inside, parameters with marks of a query, and such a token. -/
theorem longPollEndpoint_transposes_inner :
    ∃ url query : String,
      endpointUrl (websocketEndpoint "wss://host/websocket/app") (.object [("a&b", .string "c?/d")])
        "2.0.0" none = .ok url ∧
      url = "wss://host/websocket/app/websocket?" ++ query ∧
      longPollEndpoint url = "https://host/websocket/app/longpoll?" ++ query ∧
      readUrl? (longPollEndpoint url) = some [("a&b", "c?/d"), ("vsn", "2.0.0")] ∧
      readUrl? ({ LongPoll.new url 0 with token := some "t&u" } : LongPoll).url
        = some [("a&b", "c?/d"), ("vsn", "2.0.0"), ("token", "t&u")] := by
  obtain ⟨url, query, hurl, hsocket, hpoll, -, hread, -, htoken⟩ :=
    longPollEndpoint_transposes true "host/websocket/app" (.object [("a&b", .string "c?/d")]) "2.0.0"
      "t&u" none 0 (by decide) (by decide)
  rw [queryPairs_singleton] at hread htoken
  exact ⟨url, query, hurl, hsocket, hpoll, hread, htoken⟩

end Switchboard
