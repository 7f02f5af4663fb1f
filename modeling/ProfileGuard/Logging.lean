/-!
# Logging settings

* **`LogSettings`** — under which name, from which level on and in which form a service logs.
-/

namespace ProfileGuard

/-- How a service logs. -/
structure LogSettings where
  service : String := "user-profile-service"
  level : String := "info"
  /-- Whether lines are JSON objects. -/
  json : Bool := false

end ProfileGuard
