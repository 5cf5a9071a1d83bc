import CommandTelemetry.Proofs.InterceptorExits

/-!
# What telemetry may see of a failure

`visible` lists what telemetry is meant to see of a failure, and leaves out all the rest: messages,
hosts, paths of tools, the wording of deployments and of identity providers. The claim to privacy is
that nothing else matters. Two failures that look the same through `visible` are classified the
same, mark every span the same and end in the same exit code.

The proof follows the classifier. The search looks at nodes through a predicate and their links
only, and both can be read off what is visible, so it stops at the same place in both graphs. Each
of the four shapes then builds its classification from visible parts. Deployments need an induction,
because their codes are collected from a whole tree of lines.
-/

namespace CommandTelemetry

open Label Trace

namespace Failure

/-! ## What is visible -/

mutual

/-- A line with the codes of its tree but without any wording. -/
def DeploymentLine.codesOnly : DeploymentLine → DeploymentLine
  | .line code _ inner => .line code "" (linesCodesOnly inner)

def linesCodesOnly : List (Option DeploymentLine) → List (Option DeploymentLine)
  | [] => []
  | none :: rest => none :: linesCodesOnly rest
  | some l :: rest => some l.codesOnly :: linesCodesOnly rest

end

structure VisibleRequest where
  method : String
  service : Service
  deriving DecidableEq

structure VisibleResponse where
  statusCode : Int
  request : Option VisibleRequest
  deriving DecidableEq

structure VisiblePayload where
  error : String
  codes : List Int
  correlationId : String
  deriving DecidableEq

inductive VisibleShape where
  | service (errorCode : String) (response : Option VisibleResponse)
  | deployment (details : Option DeploymentLine)
  | tool (exitCode : Int) (name : String)
  | auth (payload : Option VisiblePayload)
  | group (members : List Nat)
  | other

structure VisibleNode where
  shape : VisibleShape
  className : String
  home : String
  classes : List String
  cause : Option Nat
  context : Option Nat
  suppressContext : Bool

structure VisibleFailure where
  nodes : List VisibleNode
  root : Nat

section Visible

variable (domains : List Domain)

def Request.visible (q : Request) : VisibleRequest := ⟨q.method, resolveService domains q.host⟩

def Response.visible (r : Response) : VisibleResponse :=
  ⟨r.statusCode, r.request.map (Request.visible domains)⟩

def AuthPayload.visible (p : AuthPayload) : VisiblePayload := ⟨p.error, p.codes, p.correlationId⟩

def Shape.visible : Shape → VisibleShape
  | .service errorCode response => .service errorCode (response.map (Response.visible domains))
  | .deployment details => .deployment (details.map DeploymentLine.codesOnly)
  | .tool command exitCode => .tool exitCode (toolName command)
  | .auth payload => .auth (payload.map AuthPayload.visible)
  | .group members => .group members
  | .fault _ | .plain => .other

def Node.visible (n : Node) : VisibleNode where
  shape := n.shape.visible domains
  className := n.className
  home := n.home
  classes := n.classes
  cause := n.cause
  context := n.context
  suppressContext := n.suppressContext

/-- What telemetry may see of a failure, given its table of domains. -/
def visible (f : Failure) : VisibleFailure := ⟨f.nodes.map (Node.visible domains), f.root⟩

end Visible

/-! ## The search -/

/-- Whether a node is wanted can be told from what is visible of it. -/
def Discreet (domains : List Domain) (wanted : Node → Bool) : Prop :=
  ∀ m n : Node, m.visible domains = n.visible domains → wanted m = wanted n

variable {domains : List Domain} {m n : Node} {f g : Failure}

/-- A search depends on the links of nodes and on which of them are wanted. -/
theorem searchFrom_congr {nodes nodes' : List Node} {wanted : Node → Bool}
    (h : ∀ i : Nat, (nodes[i]?).map (fun n => (wanted n, n.links)) =
      (nodes'[i]?).map fun n => (wanted n, n.links))
    (seen stack : List Nat) :
    searchFrom nodes wanted seen stack = searchFrom nodes' wanted seen stack := by
  have hsome : ∀ {i : Nat} {n : Node}, nodes[i]? = some n →
      ∃ n', nodes'[i]? = some n' ∧ wanted n' = wanted n ∧ n'.links = n.links := by
    intro i n hn
    obtain ⟨n', hn', heq⟩ := Option.map_eq_some_iff.1 ((h i).symm.trans (by rw [hn]; rfl))
    exact ⟨n', hn', congrArg Prod.fst heq, congrArg Prod.snd heq⟩
  fun_induction searchFrom nodes wanted seen stack with
  | case1 seen => rw [searchFrom]
  | case2 seen i stack hs ih => rw [searchFrom, dif_pos hs, ih]
  | case3 seen i stack hs hn ih =>
      have hn' : nodes'[i]? = none := by simpa [hn] using (h i).symm
      rw [searchFrom_of_none hs hn', ih]
  | case4 seen i stack hs n hn hw =>
      obtain ⟨n', hn', hwanted, -⟩ := hsome hn
      rw [searchFrom_of_some hs hn', if_pos (hwanted.trans hw)]
  | case5 seen i stack hs n hn hw ih =>
      obtain ⟨n', hn', hwanted, hlinks⟩ := hsome hn
      rw [searchFrom_of_some hs hn', if_neg (by rwa [hwanted]), hlinks, ih]

/-- The members of a group are visible. -/
def VisibleShape.members : VisibleShape → List Nat
  | .group members => members
  | _ => []

theorem members_eq (domains : List Domain) (n : Node) :
    n.members = (n.visible domains).shape.members := by
  unfold Node.members Node.visible
  cases n.shape <;> rfl

theorem links_eq_of_visible (h : m.visible domains = n.visible domains) : m.links = n.links := by
  have horigin : m.origin = n.origin := by
    have hcause : m.cause = n.cause := congrArg VisibleNode.cause h
    have hcontext : m.context = n.context := congrArg VisibleNode.context h
    have hsuppress : m.suppressContext = n.suppressContext :=
      congrArg VisibleNode.suppressContext h
    rw [Node.origin, Node.origin, hcause, hcontext, hsuppress]
  rw [Node.links, Node.links, members_eq domains m, h, ← members_eq domains n, horigin]

/-- A search for what can be told from the visible parts stops at the same place. -/
theorem find?_eq_of_visible {wanted : Node → Bool} (hw : Discreet domains wanted)
    (h : f.visible domains = g.visible domains) : f.find? wanted = g.find? wanted := by
  have hnodes : f.nodes.map (Node.visible domains) = g.nodes.map (Node.visible domains) :=
    congrArg VisibleFailure.nodes h
  have hroot : f.root = g.root := congrArg VisibleFailure.root h
  have hget : ∀ i : Nat, (f.nodes[i]?).map (Node.visible domains) =
      (g.nodes[i]?).map (Node.visible domains) := fun i => by
    rw [← List.getElem?_map, hnodes, List.getElem?_map]
  rw [find?, find?, hroot]
  refine searchFrom_congr (fun i => ?_) _ _
  have hi := hget i
  cases hf : f.nodes[i]? with
  | none =>
      rw [hf] at hi
      rw [Option.map_eq_none_iff.1 hi.symm]
  | some m =>
      rw [hf] at hi
      obtain ⟨n, hn, hmn⟩ := Option.map_eq_some_iff.1 hi.symm
      rw [hn, Option.map_some, Option.map_some, hw n m hmn, links_eq_of_visible hmn]

theorem findNode?_visible {wanted : Node → Bool} (hw : Discreet domains wanted)
    (h : f.visible domains = g.visible domains) :
    (f.findNode? wanted).map (Node.visible domains) =
      (g.findNode? wanted).map (Node.visible domains) := by
  have hnodes : f.nodes.map (Node.visible domains) = g.nodes.map (Node.visible domains) :=
    congrArg VisibleFailure.nodes h
  rw [findNode?, findNode?, find?_eq_of_visible hw h]
  cases g.find? wanted with
  | none => rfl
  | some i => exact List.getElem?_map.symm.trans ((congrArg (·[i]?) hnodes).trans List.getElem?_map)

/-- The category of a shape is visible. -/
def VisibleShape.category : VisibleShape → ErrorCategory
  | .service .. => .service
  | .deployment _ => .deployment
  | .tool .. => .tool
  | .auth _ => .auth
  | _ => .unknown

theorem category_visible (domains : List Domain) (shape : Shape) :
    (shape.visible domains).category = shape.category := by
  cases shape <;> rfl

theorem discreet_of_category {wanted : Node → Bool} {c : ErrorCategory}
    (h : ∀ {n : Node}, wanted n = true ↔ n.shape.category = c) : Discreet domains wanted := by
  intro m n hmn
  have hshape : m.shape.visible domains = n.shape.visible domains :=
    congrArg VisibleNode.shape hmn
  rw [Bool.eq_iff_iff, h, h, ← category_visible domains, hshape, category_visible]

/-! ## The four shapes -/

theorem levelEntry_codesOnly (lines : List (Option DeploymentLine)) (frame : Nat) :
    levelEntry (linesCodesOnly lines) frame = levelEntry lines frame := by
  have hcodes : levelCodes (linesCodesOnly lines) = levelCodes lines := by
    induction lines with
    | nil => rfl
    | cons l rest ih =>
        unfold levelCodes at ih ⊢
        rcases l with _ | ⟨code, message, inner⟩
        · rw [linesCodesOnly, List.filterMap_cons, List.filterMap_cons, ih]
        · rw [linesCodesOnly, List.filterMap_cons, List.filterMap_cons, ih]
          rfl
  rw [levelEntry, levelEntry, hcodes]

theorem levelEntries_codesOnly {lines : List (Option DeploymentLine)}
    (h : ∀ frame, innerEntries frame (linesCodesOnly lines) = innerEntries frame lines)
    (frame : Nat) : levelEntries frame (linesCodesOnly lines) = levelEntries frame lines := by
  rw [levelEntries, levelEntries, levelEntry_codesOnly, h, h]

/-- Codes are collected from the codes of lines, on all levels. -/
theorem innerEntries_codesOnly (frame : Nat) (lines : List (Option DeploymentLine)) :
    innerEntries frame (linesCodesOnly lines) = innerEntries frame lines := by
  match lines with
  | [] => rfl
  | none :: rest =>
      rw [linesCodesOnly, innerEntries, innerEntries, innerEntries_codesOnly frame rest]
  | some (.line code message inner) :: rest =>
      have hinner := levelEntries_codesOnly
        (fun frame => innerEntries_codesOnly frame inner) frame
      rw [linesCodesOnly, DeploymentLine.codesOnly, innerEntries, innerEntries, hinner,
        innerEntries_codesOnly frame rest]

theorem deploymentCodes_codesOnly (details : Option DeploymentLine) :
    deploymentCodes (details.map DeploymentLine.codesOnly) = deploymentCodes details := by
  have hlines : [details.map DeploymentLine.codesOnly] = linesCodesOnly [details] := by
    cases details <;> rfl
  rw [deploymentCodes, hlines]
  exact levelEntries_codesOnly (fun frame => innerEntries_codesOnly frame _) 0

theorem deploymentCodes_eq_of_visible {d e : Option DeploymentLine}
    (h : d.map DeploymentLine.codesOnly = e.map DeploymentLine.codesOnly) :
    deploymentCodes d = deploymentCodes e := by
  rw [← deploymentCodes_codesOnly d, h, deploymentCodes_codesOnly]

theorem ofService_eq_of_visible (errorCode : String) {r q : Option Response}
    (h : r.map (Response.visible domains) = q.map (Response.visible domains)) :
    ofService domains errorCode r = ofService domains errorCode q := by
  rcases r with _ | ⟨status, request⟩ <;> rcases q with _ | ⟨status', request'⟩
  · rfl
  · cases h
  · cases h
  · have hresponse := Option.some.inj h
    obtain rfl : status = status' := congrArg VisibleResponse.statusCode hresponse
    have hrequest : request.map (Request.visible domains) =
        request'.map (Request.visible domains) := congrArg VisibleResponse.request hresponse
    rcases request with _ | ⟨method, host⟩ <;> rcases request' with _ | ⟨method', host'⟩
    · rfl
    · cases hrequest
    · cases hrequest
    · have hvisible := Option.some.inj hrequest
      obtain rfl : method = method' := congrArg VisibleRequest.method hvisible
      have hlabel : resolveService domains host = resolveService domains host' :=
        congrArg VisibleRequest.service hvisible
      simp only [ofService, Option.bind_some, hlabel]

theorem ofTool_eq_of_visible {c d : String} (h : toolName c = toolName d) (exitCode : Int) :
    ofTool c exitCode = ofTool d exitCode := by
  have hlabel : toolLabel c = toolLabel d := by rw [toolLabel, toolLabel, h]
  rw [ofTool, ofTool, hlabel]

theorem ofAuth_eq_of_visible {p q : Option AuthPayload}
    (h : p.map AuthPayload.visible = q.map AuthPayload.visible) : ofAuth p = ofAuth q := by
  rcases p with _ | p <;> rcases q with _ | q
  · rfl
  · cases h
  · cases h
  · have hvisible := Option.some.inj h
    have herror : p.error = q.error := congrArg VisiblePayload.error hvisible
    have hcodes : p.codes = q.codes := congrArg VisiblePayload.codes hvisible
    have hid : p.correlationId = q.correlationId :=
      congrArg VisiblePayload.correlationId hvisible
    simp only [ofAuth, herror, hcodes, hid]

/-! ## The classifier -/

/-- The decisive shape is that of the first search that finds anything. -/
theorem decisiveShape_eq (f : Failure) :
    f.decisiveShape =
      (f.findNode? Node.isService).elim
        ((f.findNode? Node.isDeployment).elim
          ((f.findNode? Node.isTool).elim
            ((f.findNode? Node.isAuth).elim .plain Node.shape) Node.shape) Node.shape)
        Node.shape := by
  unfold decisiveShape
  cases f.findNode? Node.isService with
  | some n => rfl
  | none =>
      cases f.findNode? Node.isDeployment with
      | some n => rfl
      | none =>
          cases f.findNode? Node.isTool with
          | some n => rfl
          | none => cases f.findNode? Node.isAuth <;> rfl

theorem decisiveShape_visible (h : f.visible domains = g.visible domains) :
    f.decisiveShape.visible domains = g.decisiveShape.visible domains := by
  have hfirst : ∀ {wanted : Node → Bool}, Discreet domains wanted →
      ∀ {a b : Shape}, a.visible domains = b.visible domains →
      ((f.findNode? wanted).elim a Node.shape).visible domains =
        ((g.findNode? wanted).elim b Node.shape).visible domains := by
    intro wanted hw a b hab
    have hfound := findNode?_visible hw h
    cases hf : f.findNode? wanted with
    | none =>
        rw [hf] at hfound
        rw [Option.map_eq_none_iff.1 hfound.symm]
        exact hab
    | some m =>
        rw [hf] at hfound
        obtain ⟨n, hn, hmn⟩ := Option.map_eq_some_iff.1 hfound.symm
        rw [hn]
        exact congrArg VisibleNode.shape hmn.symm
  rw [decisiveShape_eq, decisiveShape_eq]
  exact hfirst (discreet_of_category isService_iff)
    (hfirst (discreet_of_category isDeployment_iff)
      (hfirst (discreet_of_category isTool_iff)
        (hfirst (discreet_of_category isAuth_iff) rfl)))

/-- Whatever makes texts of codes, it is given the same codes. -/
theorem classifyWith_eq_of_visible {m : Type → Type} [Monad m]
    (encode : List DeploymentCode → m (Option String))
    (h : f.visible domains = g.visible domains) :
    f.classifyWith encode domains = g.classifyWith encode domains := by
  have hshape := decisiveShape_visible h
  unfold classifyWith
  generalize f.decisiveShape = a at hshape
  generalize g.decisiveShape = b at hshape
  cases a with
  | service errorCode response =>
      cases b with
      | service errorCode' response' =>
          injection hshape with herror hresponse
          subst herror
          exact congrArg pure (ofService_eq_of_visible errorCode hresponse)
      | _ => cases hshape
  | deployment details =>
      cases b with
      | deployment details' =>
          injection hshape with hdetails
          simp only [deploymentCodes_eq_of_visible hdetails]
      | _ => cases hshape
  | tool command exitCode =>
      cases b with
      | tool command' exitCode' =>
          injection hshape with hexit hname
          subst hexit
          exact congrArg pure (ofTool_eq_of_visible hname exitCode)
      | _ => cases hshape
  | auth payload =>
      cases b with
      | auth payload' =>
          injection hshape with hpayload
          exact congrArg pure (ofAuth_eq_of_visible hpayload)
      | _ => cases hshape
  | group members => cases b with
      | group _ | fault _ | plain => rfl
      | _ => cases hshape
  | fault _ | plain => cases b with
      | group _ | fault _ | plain => rfl
      | _ => cases hshape

theorem node_visible (h : f.visible domains = g.visible domains) :
    f.node.visible domains = g.node.visible domains := by
  have hnodes : f.nodes.map (Node.visible domains) = g.nodes.map (Node.visible domains) :=
    congrArg VisibleFailure.nodes h
  have hroot : f.root = g.root := congrArg VisibleFailure.root h
  rw [node, node, ← Option.getD_map (Node.visible domains), ← List.getElem?_map, hnodes, hroot,
    List.getElem?_map, Option.getD_map]

theorem exitCode_eq_of_visible (h : f.visible domains = g.visible domains) :
    f.exitCode = g.exitCode := by
  have hnode := node_visible h
  have hhome : f.node.home = g.node.home := congrArg VisibleNode.home hnode
  have hname : f.node.className = g.node.className := congrArg VisibleNode.className hnode
  have hclasses : f.node.classes = g.node.classes := congrArg VisibleNode.classes hnode
  have hfound : ∀ {wanted : Node → Bool}, Discreet domains wanted →
      (f.findNode? wanted).isSome = (g.findNode? wanted).isSome := fun hw => by
    rw [← Option.isSome_map, findNode?_visible hw h, Option.isSome_map]
  unfold exitCode Node.isA
  rw [hhome, hname, hclasses, hfound (discreet_of_category isService_iff),
    hfound (discreet_of_category isDeployment_iff), hfound (discreet_of_category isTool_iff),
    hfound (discreet_of_category isAuth_iff)]

/-- Failures that look the same to telemetry are told apart neither by their classification, with
whatever encoder of codes, nor by the spans that are marked with it, nor by their exit codes. -/
theorem classification_tells_visible_only {domains : List Domain} {f g : Failure}
    (h : f.visible domains = g.visible domains) :
    f.classify domains = g.classify domains ∧
    (∀ encoder, f.classifyReporting encoder domains = g.classifyReporting encoder domains) ∧
    (∀ settings span, ∃ after, Interceptor.mark settings span (f.classify domains) = .ok after ∧
      Interceptor.mark settings span (g.classify domains) = .ok after) ∧
    f.exitCode = g.exitCode := by
  have hclassify : f.classify domains = g.classify domains := by
    rw [classify, classify, classifyWith_eq_of_visible _ h]
  refine ⟨hclassify, fun encoder => ?_, fun settings span => ?_, exitCode_eq_of_visible h⟩
  · rw [classifyReporting, classifyReporting, classifyWith_eq_of_visible _ h]
  · exact ⟨_, Interceptor.mark_classify settings span domains f, by
      rw [← hclassify, Interceptor.mark_classify]⟩

/-- A group of one failure of each known shape, one of which the group itself has caused. There is
something private in all of them. -/
def failedRelease (secret : String) : Failure where
  nodes :=
    [Node.group true secret [1, 2, 3, 4],
     Node.auth (some { error := "denied", description := secret, codes := [7], traceId := secret })
       secret,
     { Node.tool ("/home/" ++ secret ++ "/bin/make") 2 (some secret) with cause := some 0 },
     Node.deployment
       (some (.line "Conflict" secret [none, some (.line "Quota" secret [])])) secret,
     Node.service "Gone" (some ⟨410, some ⟨"GET", secret ++ ".vault.azure.net"⟩⟩)]
  root := 0

theorem failedRelease_keeps_secrets :
    (failedRelease "ada").visible wellKnownDomains =
        (failedRelease "grace").visible wellKnownDomains ∧
      (failedRelease "ada").classify wellKnownDomains =
        (failedRelease "grace").classify wellKnownDomains ∧
      (failedRelease "ada").exitCode = (failedRelease "grace").exitCode := by
  have h : (failedRelease "ada").visible wellKnownDomains =
      (failedRelease "grace").visible wellKnownDomains := by cbv
  obtain ⟨hclassify, -, -, hexit⟩ := classification_tells_visible_only h
  exact ⟨h, hclassify, hexit⟩

end Failure

end CommandTelemetry
