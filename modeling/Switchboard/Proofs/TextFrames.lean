import Mathlib
import Switchboard.Codec.Text
import Switchboard.Proofs.Tokens

/-!
# Text frames, written and read

A text frame is the compact text of an envelope, and reading it gives the message back.  The argument
goes through tokens: scanning gives the tokens of the envelope, and the grammar takes one value at a
time off their head.  It wants no more depth than the value has, so that a body may be nested as deep
as the limit allows, less one container for the envelope and one more for the object of a reply.

Main definitions

* `Json.Reads`, `Json.ReadsItems`, `Json.ReadsMembers`: what is read off the head of some tokens;
* `Payload.Unwritable`: payloads that have no text frame.

Main results

* `Members.ofList_eq_self`: members in order are kept as they are;
* `Json.reads_tokens`, `Json.read?_compact`: plain values are read back from their text;
* `Message.text_round_trip`: messages are read back from their text frames, and which have none.
-/

set_option autoImplicit false

namespace Switchboard

/-! ### Members in order -/

namespace Members

variable {members : Members} {key : String} {value : Json}

theorem insert_last (h : ∀ p ∈ members, p.1 < key) :
    insert key value members = members ++ [(key, value)] := by
  induction members with
  | nil => rfl
  | cons p rest ih =>
    obtain ⟨hp, hrest⟩ := List.forall_mem_cons.1 h
    rw [insert, if_neg (String.lt_asymm hp), if_neg (by rintro rfl; exact String.lt_irrefl _ hp),
      ih hrest, List.cons_append]

/-- Members that are in order already are kept as they are. -/
theorem ofList_eq_self (h : members.Sorted) : ofList members = members := by
  -- What is done stays in front: each of the other members goes behind it.
  have build : ∀ rest done : Members, (done ++ rest).Sorted →
      rest.foldl (fun ms p => insert p.1 p.2 ms) done = done ++ rest := by
    intro rest
    induction rest with
    | nil => intro done _; simp
    | cons p rest ih =>
      intro done hsorted
      have hlast : ∀ q ∈ done, q.1 < p.1 := fun q hq =>
        (List.pairwise_append.1 hsorted).2.2 q hq p List.mem_cons_self
      have hmoved : (done ++ [p] ++ rest).Sorted := by simpa using hsorted
      rw [List.foldl_cons, insert_last hlast, ih _ hmoved]
      simp
  exact build members [] h

end Members

namespace Json

variable {v : Json} {items : List Json} {members : Members} {ts rest after : List Token} {depth : Nat}
variable {k : String}

/-! ### Reading tokens -/

/-- A value is read off the head of some tokens, in front of what is left of them. -/
def Reads (depth : Nat) (ts : List Token) (v : Json) (after : List Token) : Prop :=
  ∃ h, readValue depth ts = some (v, ⟨after, h⟩)

/-- Items are read off the head of some tokens, through the closing bracket. -/
def ReadsItems (depth : Nat) (ts : List Token) (items : List Json) (after : List Token) : Prop :=
  ∃ h, readItems depth ts = some (items, ⟨after, h⟩)

/-- Members are read off the head of some tokens, through the closing brace. -/
def ReadsMembers (depth : Nat) (ts : List Token) (members : Members) (after : List Token) : Prop :=
  ∃ h, readMembers depth ts = some (members, ⟨after, h⟩)

theorem Reads.lastItem (h : Reads depth ts v (.closeBracket :: after)) :
    ReadsItems depth ts [v] after := by
  obtain ⟨hlt, hv⟩ := h
  rw [ReadsItems, readItems, hv]
  exact ⟨_, rfl⟩

theorem Reads.item (h : Reads depth ts v (.comma :: rest)) (h' : ReadsItems depth rest items after) :
    ReadsItems depth ts (v :: items) after := by
  obtain ⟨_, hv⟩ := h
  obtain ⟨_, hitems⟩ := h'
  rw [ReadsItems, readItems, hv]
  dsimp only
  rw [hitems]
  exact ⟨_, rfl⟩

theorem Reads.lastMember (h : Reads depth ts v (.closeBrace :: after)) :
    ReadsMembers depth (.string k :: .colon :: ts) [(k, v)] after := by
  obtain ⟨hlt, hv⟩ := h
  rw [ReadsMembers, readMembers, hv]
  exact ⟨_, rfl⟩

theorem Reads.member (h : Reads depth ts v (.comma :: rest))
    (h' : ReadsMembers depth rest members after) :
    ReadsMembers depth (.string k :: .colon :: ts) ((k, v) :: members) after := by
  obtain ⟨_, hv⟩ := h
  obtain ⟨_, hmembers⟩ := h'
  rw [ReadsMembers, readMembers, hv]
  dsimp only
  rw [hmembers]
  exact ⟨_, rfl⟩

/-- The items of an array that has some: no closing bracket stands at their head. -/
theorem ReadsItems.array (h : ReadsItems depth ts items after) :
    Reads (depth + 1) (.openBracket :: ts) (.array items) after := by
  obtain ⟨_, hitems⟩ := h
  have hopen : ∀ rest, ts ≠ .closeBracket :: rest := by
    rintro rest rfl
    simp [readItems, readValue] at hitems
  rw [Reads, readValue]
  · rw [hitems]
    exact ⟨_, rfl⟩
  · exact hopen

theorem ReadsMembers.object (h : ReadsMembers depth ts members after) (sorted : members.Sorted) :
    Reads (depth + 1) (.openBrace :: ts) (.object members) after := by
  obtain ⟨_, hmembers⟩ := h
  have hopen : ∀ rest, ts ≠ .closeBrace :: rest := by
    rintro rest rfl
    simp [readMembers] at hmembers
  rw [Reads, readValue]
  · rw [hmembers]
    dsimp only
    rw [ofPairs, Members.ofList_eq_self sorted]
    exact ⟨_, rfl⟩
  · exact hopen

theorem reads_token {t : Token} (h : ∀ h, readValue depth (t :: after) = some (v, ⟨after, h⟩)) :
    Reads depth (t :: after) v after :=
  ⟨by simp, h (by simp)⟩

mutual

/-- Reading undoes `tokens`, and leaves what stands behind them. -/
theorem reads_tokens : ∀ (v : Json) (depth : Nat) (after : List Token), v.Plain → v.depth ≤ depth →
    Reads depth (v.tokens ++ after) v after
  | .null, _, _, _, _ => reads_token (by simp [readValue])
  | .bool b, _, _, _, _ => reads_token (by simp [readValue])
  | .number n, _, _, _, _ => reads_token (by simp [readValue])
  | .string s, _, _, _, _ => reads_token (by simp [readValue])
  | .array [], 0, _, _, hdepth => by simp [Json.depth] at hdepth
  | .array [], _ + 1, _, _, _ => ⟨by simp [tokens], by simp [tokens, readValue]⟩
  | .array (v :: items), 0, _, _, hdepth => by simp [Json.depth] at hdepth
  | .array (v :: items), depth + 1, after, .array plain, hdepth => by
    obtain ⟨hv, hitems⟩ := List.forall_mem_cons.1 plain
    obtain ⟨hhead, htail⟩ : v.depth ≤ depth ∧ depthItems items ≤ depth := by
      simpa [Json.depth, depthItems] using hdepth
    have head := reads_tokens v depth (itemTokens items ++ after) hv hhead
    have all := readsItems_tokens items depth _ after v hitems htail head
    simpa [tokens] using all.array
  | .object [], 0, _, _, hdepth => by simp [Json.depth] at hdepth
  | .object [], _ + 1, _, _, _ => ⟨by simp [tokens], by simp [tokens, readValue, empty]⟩
  | .object ((k, v) :: members), 0, _, _, hdepth => by simp [Json.depth] at hdepth
  | .object ((k, v) :: members), depth + 1, after, .object sorted plain, hdepth => by
    obtain ⟨hv, hmembers⟩ := List.forall_mem_cons.1 plain
    obtain ⟨hhead, htail⟩ : v.depth ≤ depth ∧ depthMembers members ≤ depth := by
      simpa [Json.depth, depthMembers] using hdepth
    have head := reads_tokens v depth (memberTokens members ++ after) hv hhead
    have all := readsMembers_tokens members depth _ after k v hmembers htail head
    simpa [tokens] using all.object sorted

/-- The items behind one that was read. -/
theorem readsItems_tokens : ∀ (items : List Json) (depth : Nat) (ts after : List Token) (v : Json),
    (∀ v ∈ items, v.Plain) → depthItems items ≤ depth →
    Reads depth ts v (itemTokens items ++ after) → ReadsItems depth ts (v :: items) after
  | [], _, _, _, _, _, _, h => h.lastItem
  | w :: items, depth, ts, after, v, plain, hdepth, h => by
    obtain ⟨hw, hitems⟩ := List.forall_mem_cons.1 plain
    obtain ⟨hhead, htail⟩ : w.depth ≤ depth ∧ depthItems items ≤ depth := by
      simpa [depthItems] using hdepth
    have head := reads_tokens w depth (itemTokens items ++ after) hw hhead
    have all := readsItems_tokens items depth _ after w hitems htail head
    rw [← List.append_assoc] at all
    exact h.item all

/-- The members behind one that was read. -/
theorem readsMembers_tokens : ∀ (members : List (String × Json)) (depth : Nat)
    (ts after : List Token) (k : String) (v : Json), (∀ p ∈ members, p.2.Plain) →
    depthMembers members ≤ depth → Reads depth ts v (memberTokens members ++ after) →
    ReadsMembers depth (.string k :: .colon :: ts) ((k, v) :: members) after
  | [], _, _, _, _, _, _, _, h => h.lastMember
  | (l, w) :: members, depth, ts, after, k, v, plain, hdepth, h => by
    obtain ⟨hw, hmembers⟩ := List.forall_mem_cons.1 plain
    obtain ⟨hhead, htail⟩ : w.depth ≤ depth ∧ depthMembers members ≤ depth := by
      simpa [depthMembers] using hdepth
    have head := reads_tokens w depth (memberTokens members ++ after) hw hhead
    have all := readsMembers_tokens members depth _ after l w hmembers htail head
    rw [← List.append_assoc] at all
    exact h.member all

end

/-- Reading undoes printing, as long as the containers are not nested too deep. -/
theorem read?_compact (plain : v.Plain) (shallow : v.depth ≤ nestingLimit) :
    read? v.compact = some v := by
  have hscan : Token.scan v.chars = some v.tokens := by
    have h := scans_chars v [] plain (by simp [Stops])
    simpa [Scans, Token.scan] using h
  have hreads : Reads nestingLimit v.tokens v [] := by
    simpa using reads_tokens v nestingLimit [] plain shallow
  obtain ⟨_, hread⟩ := hreads
  simp only [read?, compact, String.toList_ofList, hscan, Option.bind_eq_bind, Option.bind_some,
    hread]

theorem plain_optional (r : Option String) : (optional r).Plain := by
  cases r with
  | none => exact .null
  | some s => exact .string s

end Json

/-! ### Envelopes -/

/-- Why a payload has no text frame. -/
inductive Payload.Unwritable : Payload → String → Prop
  | bytes (b : Bytes) : Unwritable (.bytes b) "raw bytes in a text frame"
  | reply {status : String} {response : Payload} (other : ∀ v, response ≠ .json v) :
    Unwritable (.reply status response) "reply with a binary response"

namespace Message

variable {m : Message} {v body : Json} {e : CodecError} {payload : Payload}

theorem plain_envelope (m : Message) (plain : body.Plain) : (m.envelope body).Plain := by
  refine .array ?_
  simp only [List.forall_mem_cons]
  exact ⟨Json.plain_optional _, Json.plain_optional _, .string _, .string _, plain, by simp⟩

theorem depth_envelope (m : Message) (body : Json) : (m.envelope body).depth = body.depth + 1 := by
  have depth_optional : ∀ r, (Json.optional r).depth = 0 := by rintro (_ | _) <;> rfl
  simp [envelope, Json.depth, Json.depthItems, depth_optional]

theorem optionalRef_optional (position : String) (r : Option Ref) :
    optionalRef position (.optional r) = .ok r := by
  cases r <;> rfl

/-- Reading the text of an envelope gives the message with its body. -/
theorem decodeText_envelope (m : Message) (plain : body.Plain) (shallow : body.depth ≤ 126) :
    decodeText (m.envelope body).compact = .ok { m with payload := .json body } := by
  have hdepth : (m.envelope body).depth ≤ Json.nestingLimit := by
    rw [depth_envelope, Json.nestingLimit]
    omega
  rw [decodeText, Json.read?_compact (plain_envelope m plain) hdepth]
  simp [envelope, ofEnvelope, optionalRef_optional, requiredString, bind, Except.bind, pure,
    Except.pure]

theorem encodeText_of_json (h : m.payload = .json v) :
    m.encodeText = .ok (m.envelope v).compact := by
  simp [encodeText, h, payloadJson, Except.map]

/-- The object that stands for a reply. -/
def replyBody (status : String) (response : Json) : Json :=
  .object [("response", response), ("status", .string status)]

theorem encodeText_of_reply {status : String} (h : m.payload = .reply status (.json v)) :
    m.encodeText = .ok (m.envelope (replyBody status v)).compact := by
  simp [encodeText, h, payloadJson, Except.map, Reply.json?, Payload.json?, replyBody]

theorem plain_replyBody (status : String) (plain : v.Plain) : (replyBody status v).Plain := by
  have ordered : "response" < "status" := by decide
  refine .object (List.pairwise_pair.2 ordered) ?_
  simp only [List.forall_mem_cons]
  exact ⟨plain, .string _, by simp⟩

theorem depth_replyBody (status : String) (v : Json) :
    (replyBody status v).depth = v.depth + 1 := by
  simp [replyBody, Json.depth, Json.depthMembers]

theorem payloadJson_eq_error_iff :
    payloadJson payload = .error e ↔
      ∃ reason, payload.Unwritable reason ∧ e = .unencodablePayload reason := by
  constructor
  · intro h
    cases payload with
    | json v => simp [payloadJson] at h
    | bytes b =>
      cases h
      exact ⟨_, .bytes b, rfl⟩
    | reply status response =>
      cases response with
      | json v => simp [payloadJson, Reply.json?, Payload.json?] at h
      | bytes b =>
        cases h
        exact ⟨_, .reply (by simp), rfl⟩
      | reply inner other =>
        cases h
        exact ⟨_, .reply (by simp), rfl⟩
  · rintro ⟨reason, unwritable, rfl⟩
    cases unwritable with
    | bytes b => rfl
    | @reply status response other =>
      cases response with
      | json v => exact absurd rfl (other v)
      | bytes b => rfl
      | reply inner more => rfl

theorem encodeText_eq_error_iff :
    m.encodeText = .error e ↔
      ∃ reason, m.payload.Unwritable reason ∧ e = .unencodablePayload reason := by
  rw [← payloadJson_eq_error_iff, encodeText]
  cases payloadJson m.payload <;> simp [Except.map]

/-! ### Messages in text frames -/

theorem reply?_replyBody (status : String) (v : Json) :
    (Payload.json (replyBody status v)).reply? = some ⟨status, .json v⟩ := by
  simp [Payload.reply?, replyBody, Members.get?]

/--
Text frames are read back.  A message with a plain JSON payload comes back as it was, for all refs,
topics and event names; a reply comes back as an object that reads as the same reply.  Writing fails
for raw bytes and for replies whose response is not JSON, and for nothing else.
-/
theorem text_round_trip (m : Message) :
    (∀ v, m.payload = .json v → v.Plain → v.depth ≤ 126 →
      ∃ text, m.encodeText = .ok text ∧ decodeText text = .ok m) ∧
    (∀ status v, m.payload = .reply status (.json v) → v.Plain → v.depth ≤ 125 →
      ∃ text received, m.encodeText = .ok text ∧ decodeText text = .ok received ∧
        received = { m with payload := received.payload } ∧
        received.payload.reply? = some ⟨status, .json v⟩) ∧
    ∀ e, m.encodeText = .error e ↔
      ∃ reason, m.payload.Unwritable reason ∧ e = .unencodablePayload reason := by
  refine ⟨?_, ?_, fun e => encodeText_eq_error_iff⟩
  · intro v hpayload plain shallow
    have hread := decodeText_envelope m plain shallow
    rw [← hpayload] at hread
    exact ⟨_, encodeText_of_json hpayload, hread⟩
  · intro status v hpayload plain shallow
    have hdepth : (replyBody status v).depth ≤ 126 := by
      rw [depth_replyBody]
      omega
    have hread := decodeText_envelope m (plain_replyBody status plain) hdepth
    exact ⟨_, _, encodeText_of_reply hpayload, hread, rfl, reply?_replyBody status v⟩

/-- A body with integers at both ends of the range, nested containers and escapes. -/
def seatPlan : Json :=
  .object [("free", .array [.number (.integer (-2 ^ 63)), .number (.integer (2 ^ 64 - 1)), .array []]),
    ("höst", .string "\"\\\n\u0001é")]

theorem text_round_trip_seatPlan : seatPlan.Plain ∧ seatPlan.depth ≤ 125 ∧
    (∃ text, encodeText ⟨some "é\t", none, "raum:1", "plan", .json seatPlan⟩ = .ok text ∧
      decodeText text = .ok ⟨some "é\t", none, "raum:1", "plan", .json seatPlan⟩) ∧
    ∃ text received, encodeText ⟨none, some "7", "raum:1", "phx_reply", .reply "ok" (.json seatPlan)⟩
        = .ok text ∧ decodeText text = .ok received ∧
      received.payload.reply? = some ⟨"ok", .json seatPlan⟩ := by
  have plain : seatPlan.Plain := by
    have seats : Json.Plain (.array [.number (.integer (-2 ^ 63)), .number (.integer (2 ^ 64 - 1)),
        .array []]) := by
      refine .array ?_
      simp only [List.forall_mem_cons]
      exact ⟨.number (by decide), .number (by decide), .array (by simp), by simp⟩
    refine .object (List.pairwise_pair.2 (show "free" < "höst" by decide)) ?_
    simp only [List.forall_mem_cons]
    exact ⟨seats, .string _, by simp⟩
  have shallow : seatPlan.depth ≤ 125 := by decide
  obtain ⟨text, received, hwritten, hread, -, hreply⟩ := (text_round_trip
    ⟨none, some "7", "raum:1", "phx_reply", .reply "ok" (.json seatPlan)⟩).2.1 _ _ rfl plain shallow
  exact ⟨plain, shallow, (text_round_trip _).1 _ rfl plain (by omega), text, received, hwritten,
    hread, hreply⟩

end Message

end Switchboard
