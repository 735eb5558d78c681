import OpenNebula.Common.TemplateRoundTrip
import OpenNebula.Users.UserRecord

namespace OpenNebula.Users

open Common Library

/-! # What is stored of a user and read again -/

def textNodes (text : String) : List Xml.Node := if text.isEmpty then [] else [.text text]

def field (name text : String) : Xml.Node := .element name (textNodes text)

def LoginToken.node (login : LoginToken) : Xml.Node :=
  .element "LOGIN_TOKEN"
    [field "TOKEN" login.token, field "EXPIRATION_TIME" (toString login.expirationTime),
      field "EGID" (toString login.egid)]

namespace UserRecord

def flag (user : UserRecord) : Int := if user.enabled then 1 else 0

def fields (user : UserRecord) : List Xml.Node :=
  [field "ID" (toString user.oid), field "GID" (toString user.gid),
    .element "GROUPS" (user.groupIds.map fun id => field "ID" (toString id)),
    field "GNAME" user.gname, field "NAME" user.name, .element "PASSWORD" [.cdata user.password],
    .element "AUTH_DRIVER" [.cdata user.authDriver], field "ENABLED" (toString user.flag)]

def nodes (user : UserRecord) (template : Xml.Node) : List Xml.Node :=
  user.fields ++ (user.tokens.map LoginToken.node ++ [template])

def document (user : UserRecord) : Xml.Node := .element "USER" (user.nodes (user.template.document "TEMPLATE"))

end UserRecord

theorem toList_field (name text : String) : (xmlElement name text).toList = Xml.render (field name text) := by
  apply toList_xmlElement
  unfold textNodes
  split
  · rename_i isEmpty
    rw [String.isEmpty_iff.1 isEmpty]
    rfl
  · simp [Xml.renderAll, Xml.render]

theorem LoginToken.toList_toXml (login : LoginToken) : login.toXml.toList = Xml.render login.node := by
  apply toList_xmlElement
  simp only [String.toList_append, toList_field, Xml.renderAll, List.append_nil, List.append_assoc]

theorem renderAll_append (first second : List Xml.Node) :
    Xml.renderAll (first ++ second) = Xml.renderAll first ++ Xml.renderAll second := by
  simp only [Xml.renderAll_eq, List.flatMap_append]

theorem toList_join_map {α : Type} {items : List α} {toXml : α → String} {node : α → Xml.Node}
    (each : ∀ item, (toXml item).toList = Xml.render (node item)) :
    (String.join (items.map toXml)).toList = Xml.renderAll (items.map node) := by
  rw [String.toList_join, Xml.renderAll_eq, List.flatMap_map, List.flatMap_map]
  exact List.flatMap_congr fun item _ => each item

namespace UserRecord

variable {user : UserRecord}

theorem toXml_eq (stored : user.Stored) : user.toXml = String.ofList (Xml.render user.document) := by
  have template : (user.template.toXml "TEMPLATE").toList = Xml.render (user.template.document "TEMPLATE") := by
    rw [Template.toXml_eq stored.template, String.toList_ofList]
  have groups : (xmlElement "GROUPS" (String.join (user.groupIds.map fun id => xmlElement "ID" (toString id)))).toList =
      Xml.render (.element "GROUPS" (user.groupIds.map fun id => field "ID" (toString id))) :=
    toList_xmlElement (toList_join_map fun id => toList_field "ID" (toString id))
  have section_ : ∀ name value, (xmlElement name (escapeXml value)).toList = Xml.render (.element name [.cdata value]) :=
    fun name value => toList_xmlElement (toList_escapeXml value)
  rw [← String.toList_inj, String.toList_ofList]
  apply toList_xmlElement
  simp only [String.toList_append, toList_field, groups, section_, toList_join_map LoginToken.toList_toXml, template,
    nodes, fields, flag, renderAll_append, Xml.renderAll, List.append_nil, List.append_assoc]

end UserRecord

theorem toString_characters (value : Int) : ∀ c ∈ (toString value).toList, c = '-' ∨ (48 ≤ c.toNat ∧ c.toNat ≤ 57) := by
  have digits : ∀ c ∈ Nat.toDigits 10 value.natAbs, 48 ≤ c.toNat ∧ c.toNat ≤ 57 := by
    intro c member
    have isDigit : c.isDigit = true := Nat.isDigit_of_mem_toDigits (by decide) (by decide) member
    simp only [Char.isDigit, Bool.and_eq_true, decide_eq_true_eq] at isDigit
    exact isDigit
  rw [toString_toList_int]
  intro c member
  split at member
  · obtain rfl | member := List.mem_cons.1 member
    · exact .inl rfl
    · exact .inr (digits c member)
  · exact .inr (digits c member)

theorem plainText_int (value : Int) : PlainText (toString value) := by
  have characters := toString_characters value
  have absent : ∀ c : Char, c ≠ '-' → (c.toNat < 48 ∨ 57 < c.toNat) → c ∉ (toString value).toList := by
    intro c notMinus notDigit member
    rcases characters c member with isMinus | isDigit
    · exact notMinus isMinus
    · omega
  constructor
  · apply List.all_eq_true.2
    intro c member
    have bounds : 45 ≤ c.toNat ∧ c.toNat ≤ 57 := by
      rcases characters c member with rfl | isDigit
      · decide
      · omega
    simp only [Xml.isChar, Xml.within, List.any_cons, Bool.or_eq_true, Bool.and_eq_true, decide_eq_true_eq]
    omega
  · exact ⟨absent '<' (by decide) (by decide), absent '&' (by decide) (by decide), absent '\r' (by decide) (by decide)⟩
  · intro closes
    exact absent ']' (by decide) (by decide) (closes.subset (by simp [Xml.cdataEnd]))

variable {text : String} {login : LoginToken}

theorem PlainText.wellFormed_field {name : String} (plain : PlainText text)
    (isName : Xml.isName name.toList = true) : Xml.WellFormed (field name text) := by
  have inside : Xml.AllWellFormed (textNodes text) ∧ (textNodes text).IsChain Xml.Apart := by
    unfold textNodes
    split
    · exact ⟨trivial, .nil⟩
    · rename_i filled
      have wellFormed : Xml.WellFormed (.text text) := by
        refine ⟨?_, ?_, plain.closed⟩
        · intro isEmpty
          exact filled (String.isEmpty_iff.2 (String.toList_eq_nil_iff.1 isEmpty))
        · intro c member
          exact ⟨List.all_eq_true.1 plain.legal c member, fun same => plain.unmarked.1 (same ▸ member),
            fun same => plain.unmarked.2.1 (same ▸ member)⟩
      exact ⟨⟨wellFormed, trivial⟩, List.isChain_singleton _⟩
  exact ⟨isName, inside.1, inside.2⟩

theorem PlainText.normalize_field (plain : PlainText text) (name : String) :
    Xml.normalize (field name text) = field name text := by
  unfold field textNodes
  split
  · rfl
  · simp only [Xml.normalize, Xml.normalizeAll, Xml.lineEnds_eq_self.2 plain.unmarked.2.2, String.ofList_toList]

theorem PlainSection.wellFormed {name : String} (plain : PlainSection text)
    (isName : Xml.isName name.toList = true) : Xml.WellFormed (.element name [.cdata text]) := by
  have inside : Xml.WellFormed (.cdata text) := ⟨List.all_eq_true.1 plain.legal, plain.closed⟩
  exact ⟨isName, ⟨inside, trivial⟩, List.isChain_singleton _⟩

theorem PlainSection.normalize (plain : PlainSection text) (name : String) :
    Xml.normalize (.element name [.cdata text]) = .element name [.cdata text] := by
  simp only [Xml.normalize, Xml.normalizeAll, Xml.lineEnds_eq_self.2 plain.lines, String.ofList_toList]

theorem content_field (name text : String) : ObjectXml.content (field name text) = text := by
  unfold field textNodes
  split
  · rename_i isEmpty
    rw [String.isEmpty_iff.1 isEmpty]
    rfl
  · simp [ObjectXml.content, ObjectXml.contents]

theorem content_section (name text : String) : ObjectXml.content (.element name [.cdata text]) = text := by
  simp [ObjectXml.content, ObjectXml.contents]

theorem LoginToken.normalize_node (plain : PlainText login.token) : Xml.normalize login.node = login.node := by
  simp only [LoginToken.node, Xml.normalize, Xml.normalizeAll, plain.normalize_field,
    (plainText_int _).normalize_field]

theorem LoginToken.wellFormed_node (plain : PlainText login.token) : Xml.WellFormed login.node := by
  refine ⟨by decide, ⟨?_, ?_, ?_, trivial⟩, Xml.isChain_apart ?_⟩
  · exact plain.wellFormed_field (by decide)
  · exact (plainText_int _).wellFormed_field (by decide)
  · exact (plainText_int _).wellFormed_field (by decide)
  · simp [field, Xml.Node.isCdata, Xml.Node.isText]

theorem LoginToken.fromXmlNode_node (expiration : -2 ^ 63 ≤ login.expirationTime ∧ login.expirationTime < 2 ^ 63)
    (egid : -2 ^ 31 ≤ login.egid ∧ login.egid < 2 ^ 31) : LoginToken.fromXmlNode login.node = login := by
  have token : ObjectXml.getNodes login.node ["LOGIN_TOKEN", "TOKEN"] = [field "TOKEN" login.token] := by
    simp [ObjectXml.getNodes, ObjectXml.named, ObjectXml.children, LoginToken.node, field]
  have time : ObjectXml.getNodes login.node ["LOGIN_TOKEN", "EXPIRATION_TIME"] =
      [field "EXPIRATION_TIME" (toString login.expirationTime)] := by
    simp [ObjectXml.getNodes, ObjectXml.named, ObjectXml.children, LoginToken.node, field]
  have group : ObjectXml.getNodes login.node ["LOGIN_TOKEN", "EGID"] = [field "EGID" (toString login.egid)] := by
    simp [ObjectXml.getNodes, ObjectXml.named, ObjectXml.children, LoginToken.node, field]
  unfold LoginToken.fromXmlNode
  rw [ObjectXml.xpath_of_node token, content_field,
    ObjectXml.xpathTime_of_node time (content_field _ _) expiration.1 expiration.2,
    ObjectXml.xpathInt_of_node group (content_field _ _) egid.1 egid.2]

theorem readIds_toString {ids : List Int} (fits : ∀ id ∈ ids, -2 ^ 31 ≤ id ∧ id < 2 ^ 31) :
    readIds (ids.map toString) = some ids.toFinset := by
  induction ids with
  | nil => rfl
  | cons id rest ih =>
    obtain ⟨low, high⟩ := fits id List.mem_cons_self
    rw [List.map_cons, readIds, extracted_toString low high,
      ih fun other member => fits other (List.mem_cons_of_mem id member), List.toFinset_cons]
    rfl

namespace UserRecord

variable {user : UserRecord}

theorem mem_tokens {login : LoginToken} :
    login ∈ user.tokens ↔ ∃ token, user.loginTokens.lookup token = some login := by
  simp only [tokens, List.mem_map, List.mem_insertionSort, Sigma.exists, exists_eq_right]
  exact exists_congr fun token => Map.mem_entries_iff

theorem Plain.token (plain : user.Plain) (stored : user.Stored) {login : LoginToken} (member : login ∈ user.tokens) :
    PlainText login.token := by
  obtain ⟨token, found⟩ := mem_tokens.1 member
  rw [(stored.tokens token login found).1]
  exact plain.tokens token (AList.lookup_isSome.1 (Option.isSome_of_mem found))

theorem wellFormed_document (stored : user.Stored) (plain : user.Plain) : Xml.WellFormed user.document := by
  have groups : Xml.WellFormed (.element "GROUPS" (user.groupIds.map fun id => field "ID" (toString id))) := by
    refine ⟨by decide, ?_, Xml.isChain_apart ?_⟩
    · rw [Xml.allWellFormed_iff]
      intro node isNode
      obtain ⟨id, -, rfl⟩ := List.mem_map.1 isNode
      exact (plainText_int id).wellFormed_field (by decide)
    · intro node isNode
      obtain ⟨id, -, rfl⟩ := List.mem_map.1 isNode
      exact ⟨rfl, rfl⟩
  have template := Template.wellFormed_document stored.template plain.template.1
  refine ⟨by decide, ?_, Xml.isChain_apart ?_⟩
  · rw [Xml.allWellFormed_iff]
    intro node isNode
    rcases List.mem_append.1 isNode with inFields | isNode
    · simp only [fields, List.mem_cons, List.not_mem_nil, or_false] at inFields
      rcases inFields with rfl | rfl | rfl | rfl | rfl | rfl | rfl | rfl
      · exact (plainText_int _).wellFormed_field (by decide)
      · exact (plainText_int _).wellFormed_field (by decide)
      · exact groups
      · exact plain.gname.wellFormed_field (by decide)
      · exact plain.name.wellFormed_field (by decide)
      · exact plain.password.wellFormed (by decide)
      · exact plain.authDriver.wellFormed (by decide)
      · exact (plainText_int _).wellFormed_field (by decide)
    · rcases List.mem_append.1 isNode with inTokens | isTemplate
      · obtain ⟨login, member, rfl⟩ := List.mem_map.1 inTokens
        exact LoginToken.wellFormed_node (plain.token stored member)
      · rw [List.mem_singleton.1 isTemplate]
        exact template
  · intro node isNode
    simp only [nodes, fields, List.mem_append, List.mem_cons, List.not_mem_nil, or_false, List.mem_map] at isNode
    rcases isNode with (rfl | rfl | rfl | rfl | rfl | rfl | rfl | rfl) | ⟨login, -, rfl⟩ | rfl
    all_goals exact ⟨rfl, rfl⟩

theorem normalize_document (stored : user.Stored) (plain : user.Plain) : Xml.normalize user.document =
      .element "USER" (user.nodes (Xml.normalize (user.template.document "TEMPLATE"))) := by
  have groups : Xml.normalize (.element "GROUPS" (user.groupIds.map fun id => field "ID" (toString id))) =
      .element "GROUPS" (user.groupIds.map fun id => field "ID" (toString id)) := by
    rw [Xml.normalize, Xml.normalizeAll_eq, List.map_map]
    exact congrArg _ (List.map_congr_left fun id _ => (plainText_int id).normalize_field "ID")
  have tokens : (user.tokens.map LoginToken.node).map Xml.normalize = user.tokens.map LoginToken.node := by
    rw [List.map_map]
    exact List.map_congr_left fun login member => LoginToken.normalize_node (plain.token stored member)
  rw [document, Xml.normalize, Xml.normalizeAll_eq]
  simp only [nodes, fields, List.map_append, tokens, List.map_cons, List.map_nil, groups, plain.gname.normalize_field,
    plain.name.normalize_field, plain.password.normalize, plain.authDriver.normalize,
    (plainText_int _).normalize_field]

theorem lookup_readTokens (stored : user.Stored) (token : String) :
    (readTokens (user.tokens.map LoginToken.node)).lookup token = user.loginTokens.lookup token := by
  have rows : readTokens (user.tokens.map LoginToken.node) =
      (user.loginTokens.entries.insertionSort fun first second => first.1 ≤ second.1).foldl
        (fun tokens row => Map.insertNew row.1 row.2 tokens) ∅ := by
    rw [readTokens, tokens, List.map_map, List.foldl_map]
    apply List.foldl_ext
    intro read row member
    have found := Map.mem_entries_iff.1 ((List.mem_insertionSort _).1 member)
    obtain ⟨sameText, expiration, egid⟩ := stored.tokens row.1 row.2 found
    rw [Function.comp_apply, LoginToken.fromXmlNode_node expiration egid]
    dsimp only
    rw [sameText]
  have perm := List.perm_insertionSort (fun first second : Σ _ : String, LoginToken => first.1 ≤ second.1)
    user.loginTokens.entries
  have nodup := (List.perm_nodupKeys perm).2 user.loginTokens.nodupKeys
  rw [rows, Map.lookup_foldl_insertNew, List.perm_dlookup token nodup perm]
  rfl

theorem getNodes_nodes (template : Xml.Node) (name : String) :
    ObjectXml.getNodes (.element "USER" (user.nodes template)) ["USER", name] =
      ObjectXml.named name (user.nodes template) := by
  simp [ObjectXml.getNodes, ObjectXml.named, ObjectXml.children]

theorem named_tokens {name : String} (apart : name ≠ "LOGIN_TOKEN") :
    ObjectXml.named name (user.tokens.map LoginToken.node) = [] := by
  rw [ObjectXml.named, List.filter_eq_nil_iff]
  intro node isNode
  obtain ⟨login, -, rfl⟩ := List.mem_map.1 isNode
  simp [LoginToken.node, apart.symm]

theorem named_login :
    ObjectXml.named "LOGIN_TOKEN" (user.tokens.map LoginToken.node) = user.tokens.map LoginToken.node := by
  rw [ObjectXml.named, List.filter_eq_self]
  intro node isNode
  obtain ⟨login, -, rfl⟩ := List.mem_map.1 isNode
  rfl

theorem getNodes_document {name : String} (apart : name ≠ "LOGIN_TOKEN") (children : List Xml.Node) :
    ObjectXml.getNodes (.element "USER" (user.nodes (.element "TEMPLATE" children))) ["USER", name] =
      ObjectXml.named name (user.fields ++ [.element "TEMPLATE" children]) := by
  have noToken : ObjectXml.named name (user.tokens.map LoginToken.node) = [] := named_tokens apart
  rw [getNodes_nodes, nodes]
  simp only [ObjectXml.named, List.filter_append] at noToken ⊢
  rw [noToken, List.nil_append]

theorem getNodes_logins (children : List Xml.Node) :
    ObjectXml.getNodes (.element "USER" (user.nodes (.element "TEMPLATE" children))) ["USER", "LOGIN_TOKEN"] =
      user.tokens.map LoginToken.node := by
  have others : ObjectXml.named "LOGIN_TOKEN" user.fields = [] := by simp [fields, field, ObjectXml.named]
  have template : ObjectXml.named "LOGIN_TOKEN" [.element "TEMPLATE" children] = [] := rfl
  have logins : ObjectXml.named "LOGIN_TOKEN" (user.tokens.map LoginToken.node) =
      user.tokens.map LoginToken.node := named_login
  rw [getNodes_nodes, nodes]
  simp only [ObjectXml.named, List.filter_append] at others template logins ⊢
  rw [others, template, logins, List.append_nil, List.nil_append]

theorem xpaths_groups (ids : List Int) :
    ObjectXml.xpaths (.element "GROUPS" (ids.map fun id => field "ID" (toString id))) ["GROUPS", "ID"] =
      ids.map toString := by
  have all : ObjectXml.getNodes (.element "GROUPS" (ids.map fun id => field "ID" (toString id))) ["GROUPS", "ID"] =
      ids.map fun id => field "ID" (toString id) := by
    simp [ObjectXml.getNodes, ObjectXml.named, ObjectXml.children, field]
  rw [ObjectXml.xpaths, all, List.map_map]
  exact List.map_congr_left fun id _ => content_field "ID" (toString id)

theorem ofDocument_nodes (stored : user.Stored) (children : List Xml.Node)
    (operations : setAuthOps (Template.rebuildAttributes true (.element "TEMPLATE" children)) = true) :
    ofDocument (.element "USER" (user.nodes (.element "TEMPLATE" children))) = some { user with
        loginTokens := readTokens (user.tokens.map LoginToken.node)
        template := Template.rebuildAttributes true (.element "TEMPLATE" children) } := by
  generalize isRoot : Xml.Node.element "USER" (user.nodes (.element "TEMPLATE" children)) = root
  have oid : ObjectXml.getNodes root ["USER", "ID"] = [field "ID" (toString user.oid)] := by
    simp [← isRoot, getNodes_document, fields, field, ObjectXml.named]
  have gid : ObjectXml.getNodes root ["USER", "GID"] = [field "GID" (toString user.gid)] := by
    simp [← isRoot, getNodes_document, fields, field, ObjectXml.named]
  have groups : ObjectXml.getNodes root ["USER", "GROUPS"] = [.element "GROUPS" (user.groupIds.map fun id =>
    field "ID" (toString id))] := by
    simp [← isRoot, getNodes_document, fields, field, ObjectXml.named]
  have gname : ObjectXml.getNodes root ["USER", "GNAME"] = [field "GNAME" user.gname] := by
    simp [← isRoot, getNodes_document, fields, field, ObjectXml.named]
  have name : ObjectXml.getNodes root ["USER", "NAME"] = [field "NAME" user.name] := by
    simp [← isRoot, getNodes_document, fields, field, ObjectXml.named]
  have password : ObjectXml.getNodes root ["USER", "PASSWORD"] = [.element "PASSWORD" [.cdata user.password]] := by
    simp [← isRoot, getNodes_document, fields, field, ObjectXml.named]
  have driver : ObjectXml.getNodes root ["USER", "AUTH_DRIVER"] = [.element "AUTH_DRIVER" [.cdata user.authDriver]] := by
    simp [← isRoot, getNodes_document, fields, field, ObjectXml.named]
  have enabled : ObjectXml.getNodes root ["USER", "ENABLED"] = [field "ENABLED" (toString user.flag)] := by
    simp [← isRoot, getNodes_document, fields, field, ObjectXml.named]
  have template : ObjectXml.getNodes root ["USER", "TEMPLATE"] = [.element "TEMPLATE" children] := by
    simp [← isRoot, getNodes_document, fields, field, ObjectXml.named]
  have logins : ObjectXml.getNodes root ["USER", "LOGIN_TOKEN"] = user.tokens.map LoginToken.node := by
    rw [← isRoot, getNodes_logins]
  have isFlag : -2 ^ 31 ≤ user.flag ∧ user.flag < 2 ^ 31 := by
    unfold flag
    split <;> decide
  have fits : ∀ id ∈ user.groupIds, -2 ^ 31 ≤ id ∧ id < 2 ^ 31 :=
    fun id member => stored.groups id (user.mem_groupIds.1 member)
  have enabledAgain : (decide (user.flag ≠ 0)) = user.enabled := by
    cases isEnabled : user.enabled <;> simp [flag, isEnabled]
  unfold ofDocument
  rw [ObjectXml.xpathInt_of_node oid (content_field _ _) stored.oid.1 stored.oid.2,
    ObjectXml.xpathInt_of_node gid (content_field _ _) stored.gid.1 stored.gid.2,
    ObjectXml.xpath_of_node gname, ObjectXml.xpath_of_node name, ObjectXml.xpath_of_node password,
    ObjectXml.xpath_of_node driver, ObjectXml.xpathInt_of_node enabled (content_field _ _) isFlag.1 isFlag.2,
    logins, template, groups]
  dsimp only
  rw [xpaths_groups, readIds_toString fits]
  simp only [operations, content_field, content_section, enabledAgain, Bool.and_self, if_true, toFinset_groupIds]

end UserRecord

namespace UserRecord

variable {user : UserRecord} {parse : String → Option Xml.Node}

theorem Same.stored {read : UserRecord} (same : user.Same read) (stored : user.Stored) : read.Stored where
  oid := same.oid ▸ stored.oid
  gid := same.gid ▸ stored.gid
  groups := same.groups ▸ stored.groups
  tokens token login found := stored.tokens token login ((same.loginTokens token).trans found)
  template := same.template.storable stored.template
  operations := by
    rw [← stored.operations]
    unfold setAuthOps
    simp only [same.template.get]

theorem Same.plain {read : UserRecord} (same : user.Same read) (plain : user.Plain) : read.Plain where
  gname := same.gname ▸ plain.gname
  name := same.name ▸ plain.name
  password := same.password ▸ plain.password
  authDriver := same.authDriver ▸ plain.authDriver
  tokens token member := by
    obtain ⟨login, found⟩ := Option.isSome_iff_exists.1 (AList.lookup_isSome.2 member)
    rw [← same.loginTokens] at found
    exact plain.tokens token (AList.lookup_isSome.1 (Option.isSome_of_mem found))
  template := ⟨same.template.closed plain.template.1, same.template.plain plain.template.2⟩

theorem parse_toXml (conforming : Xml.Conforming parse) (stored : user.Stored) (plain : user.Plain) :
    parse user.toXml = some (Xml.normalize user.document) := by
  rw [toXml_eq stored]
  exact conforming _ _ (wellFormed_document stored plain)

theorem reload (conforming : Xml.Conforming parse) (stored : user.Stored) (plain : user.Plain) :
    ∃ loaded, fromXml parse user.toXml = some loaded ∧ user.Same loaded := by
  have parsed := parse_toXml conforming stored plain
  have same := plain.template.2.same_read stored.template
  rw [← Template.rebuild_document stored.template] at same
  have operations : setAuthOps (Template.rebuildAttributes true
      (Xml.normalize (user.template.document "TEMPLATE"))) = setAuthOps user.template := by
    unfold setAuthOps
    simp only [same.get]
  rw [stored.operations] at operations
  obtain ⟨children, isTemplate⟩ : ∃ children,
      Xml.normalize (user.template.document "TEMPLATE") = .element "TEMPLATE" children := ⟨_, rfl⟩
  rw [isTemplate] at operations same
  have read : fromXml parse user.toXml =
      ofDocument (.element "USER" (user.nodes (.element "TEMPLATE" children))) := by
    rw [fromXml, parsed, Option.bind_some, normalize_document stored plain, isTemplate]
  rw [ofDocument_nodes stored children operations] at read
  refine ⟨_, read, ⟨rfl, rfl, rfl, rfl, rfl, rfl, rfl, rfl, ?_, same⟩⟩
  intro token
  exact (lookup_readTokens stored token).symm

end UserRecord

end OpenNebula.Users
