import ViewerLogin.Call.Basic
import ViewerLogin.Proofs.Json.RoundTrip

/-!
# Calls and replies read back

Calls and replies whose parameters can be written are read back from their octets. The two
levels of nesting that they add are within the limit.
-/

namespace ViewerLogin

open Json (Writable)

namespace Call

theorem readMethod?_tree (method : String) :
    readMethod? (Json.text method).tree = some method :=
  Piece.text?_ofText method

theorem readParams?_tree {params : List Json}
    (writable : ∀ param ∈ params, Writable paramNesting param) :
    readParams? (Json.list params).tree = some params :=
  Json.itemsOfTrees?_itemTrees fun param member => Json.ofTree?_tree (writable param member)

theorem toJson_eq_map (call : Call) :
    call.toJson = .map [("methodName", .text call.method), ("params", .list call.params)] := by
  have names : "methodName" < "params" := by decide
  have ascends : ∀ entry ∈ [("methodName", Json.text call.method)], entry.1 < "params" :=
    List.forall_mem_singleton.mpr names
  exact congrArg Json.map (Json.Members.insert_of_above (.list call.params) ascends)

theorem writable_toJson {call : Call}
    (writable : ∀ param ∈ call.params, Writable paramNesting param) :
    Writable Json.nestingLimit call.toJson := by
  apply Json.writable_ofList
  intro pair member
  rcases List.mem_cons.mp member with rfl | inRest
  · exact .text _ _
  · rw [List.mem_singleton.mp inRest]
    exact .list writable

theorem add?_method (method : String) :
    Parts.empty.add? "methodName" (Json.text method).tree = some ⟨some method, none⟩ := by
  rw [Parts.add?, if_pos rfl, readMethod?_tree]
  rfl

theorem add?_params {params : List Json} (method : Option String)
    (writable : ∀ param ∈ params, Writable paramNesting param) :
    Parts.add? ⟨method, none⟩ "params" (Json.list params).tree = some ⟨method, some params⟩ := by
  rw [Parts.add?, if_neg (by decide), if_pos rfl, readParams?_tree writable]
  rfl

theorem ofTree?_tree {call : Call}
    (writable : ∀ param ∈ call.params, Writable paramNesting param) :
    ofTree? call.toJson.tree = some call := by
  have parts : Parts.empty.ofMembers? (Json.memberTrees
      [("methodName", .text call.method), ("params", .list call.params)]) =
      some ⟨some call.method, some call.params⟩ := by
    rw [Json.memberTrees, Json.memberTrees, Json.memberTrees, Parts.ofMembers?,
      Piece.text?_ofText, Option.bind_some, add?_method, Option.bind_some, Parts.ofMembers?,
      Piece.text?_ofText, Option.bind_some, add?_params _ writable, Option.bind_some,
      Parts.ofMembers?]
  rw [toJson_eq_map, Json.tree, ofTree?, parts]
  rfl

theorem ofOctets?_toOctets {call : Call}
    (writable : ∀ param ∈ call.params, Writable paramNesting param) :
    ofOctets? call.toOctets = some call := by
  rw [ofOctets?, toOctets, Text.Utf8.decode_encode,
    Tree.ofSymbols?_write (writable_toJson writable), Option.bind_some, ofTree?_tree writable]

end Call

namespace Reply

theorem toJson_eq_map (reply : Reply) : reply.toJson = .map [("params", .list reply.params)] := rfl

theorem writable_toJson {reply : Reply}
    (writable : ∀ param ∈ reply.params, Writable Call.paramNesting param) :
    Writable Json.nestingLimit reply.toJson := by
  apply Json.writable_ofList
  intro pair member
  rw [List.mem_singleton.mp member]
  exact .list writable

theorem ofTree?_tree {reply : Reply}
    (writable : ∀ param ∈ reply.params, Writable Call.paramNesting param) :
    ofTree? reply.toJson.tree = some reply := by
  have added : addMember? none "params" (Json.list reply.params).tree =
      some (some reply.params) := by
    rw [addMember?, if_pos rfl, Call.readParams?_tree writable]
    rfl
  rw [toJson_eq_map, Json.tree, Json.memberTrees, Json.memberTrees, ofTree?, ofMembers?,
    Piece.text?_ofText, Option.bind_some, added]
  rfl

theorem ofOctets?_toJson {reply : Reply}
    (writable : ∀ param ∈ reply.params, Writable Call.paramNesting param) :
    ofOctets? (Text.Utf8.encode reply.toJson.write) = some reply := by
  rw [ofOctets?, Text.Utf8.decode_encode, Tree.ofSymbols?_write (writable_toJson writable),
    Option.bind_some, ofTree?_tree writable]

end Reply

end ViewerLogin
