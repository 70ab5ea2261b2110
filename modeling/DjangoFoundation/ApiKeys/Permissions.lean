/-
`HasAPIKeyScope` (`apps/api_keys/permissions.py`), and what the views declare for it.

`request.method` is in upper case.  A view answers the methods it has a handler for, `HEAD`
with the handler of `GET` unless it has its own, and every view answers `OPTIONS`.
-/
import DjangoFoundation.Database

namespace DjangoFoundation

/-- What dispatch and permissions read of a view. -/
structure View where
  /-- The names of its handlers: `get`, `put`, .. -/
  handlers : List String
  /-- `required_api_key_scopes`, where there is that attribute. -/
  requiredAPIKeyScopes : Option (List String) := none
  /-- `required_api_key_scopes_by_method`, where it is there and not `None`. -/
  requiredAPIKeyScopesByMethod : Option (List (String × List String)) := none
  deriving DecidableEq, Repr

namespace View

/-- `View.http_method_names`. -/
def httpMethodNames : List String :=
  ["get", "post", "put", "patch", "delete", "head", "options", "trace"]

/-- `name.lower()`, of a method. -/
def lower (method : String) : String := String.ofList (method.toList.map Char.toLower)

/-- The handlers, once `setup` has set `self.head = self.get`, with that of `APIView`. -/
def served (view : View) : List String :=
  "options" :: (if "get" ∈ view.handlers ∧ "head" ∉ view.handlers then ["head"] else []) ++
    view.handlers

/-- `dispatch` finds a handler for the method. -/
def answers (view : View) (method : String) : Bool :=
  lower method ∈ httpMethodNames ∧ lower method ∈ view.served

/-- The requirement the view declares for a method: for each by itself, or for all alike. -/
def declares (view : View) (method : String) : Option (List String) :=
  match view.requiredAPIKeyScopesByMethod with
  | some byMethod => byMethod.lookup method
  | none => view.requiredAPIKeyScopes

end View

namespace HasAPIKeyScope

/-- `set(required).issubset(set(api_key.scopes))`. -/
def covers (apiKey : APIKey) (required : List String) : Bool :=
  required.all fun scope => scope ∈ apiKey.scopes

/-- `has_permission`, of a request authenticated by a key or otherwise. -/
def hasPermission (authAPIKey : Option APIKey) (method : String) (view : View) : Bool :=
  match authAPIKey with
  | none => true
  | some apiKey =>
      let byMethod := view.requiredAPIKeyScopesByMethod
      let declared := view.requiredAPIKeyScopes.isSome || byMethod.isSome
      if !declared then false
      else
        let required := match byMethod with
          | some byMethod => (byMethod.lookup method).getD []
          | none => view.requiredAPIKeyScopes.getD []
        covers apiKey required

end HasAPIKeyScope

/-! ### `apps/api/views/accounts.py` and `notifications.py` -/

def CurrentUserView : View where
  handlers := ["get"]
  requiredAPIKeyScopes := some ["profile.read"]

/-- What two views declare alike. -/
def profileScopes : List (String × List String) :=
  [("GET", ["profile.read"]), ("PUT", ["profile.write"]), ("PATCH", ["profile.write"])]

def CurrentUserProfileView : View where
  handlers := ["get", "put", "patch"]
  requiredAPIKeyScopesByMethod := some profileScopes

def CurrentUserPreferencesView : View where
  handlers := ["get", "put", "patch"]
  requiredAPIKeyScopesByMethod := some profileScopes

def SecurityEventListView : View where
  handlers := ["get"]

/-- `NotificationViewSet`, at one of its routes. -/
def NotificationViewSet (handlers : List String) : View where
  handlers := handlers
  requiredAPIKeyScopes := some ["notifications.read"]

end DjangoFoundation
