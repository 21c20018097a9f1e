import ComposeCluster.Naming.Component

/-!
# Names of objects

Every name of an object consists of the name of the component, a fixed part, and what a user chose.
Names of one kind differ where the choices do, and the fixed parts keep most kinds apart. They do
not keep the environment of a service apart from a secret of the compose document:
`envSecret_eq_configSecret_iff` says for which choices the two have one name.
-/

set_option autoImplicit false

namespace ComposeCluster.Component

variable (c : Component)

/-- Configs with different names have config maps with different names. -/
theorem configMap_inj {config other : String} :
    c.configMap config = c.configMap other ↔ config = other :=
  String.append_right_inj _

/-- Secrets with different names have objects with different names. -/
theorem configSecret_inj {secret other : String} :
    c.configSecret secret = c.configSecret other ↔ secret = other :=
  String.append_right_inj _

/-- Services with different names have environments with different names. -/
theorem envSecret_inj {service other : String} :
    c.envSecret service = c.envSecret other ↔ service = other := by
  rw [envSecret, envSecret, String.append_left_inj, String.append_right_inj]

/-- No secret of the document is called like that for images. -/
theorem configSecret_ne_pullSecret (secret : String) : c.configSecret secret ≠ c.pullSecret := by
  intro h
  have hlist := congrArg String.toList h
  rw [configSecret, pullSecret, String.toList_append, String.toList_append,
    String.toList_append, List.append_assoc, List.append_cancel_left_eq] at hlist
  -- What follows the two dashes tells the names apart.
  have hthird := congrArg (fun list => list[2]?) hlist
  cases hthird

/-- No environment is called like the secret for images. -/
theorem envSecret_ne_pullSecret (service : String) : c.envSecret service ≠ c.pullSecret := by
  intro h
  have henv : (c.envSecret service).toList.getLast? = some 'e' := by
    rw [envSecret, String.toList_append, List.getLast?_append]
    rfl
  have hpull : c.pullSecret.toList.getLast? = some 'l' := by
    rw [pullSecret, String.toList_append, List.getLast?_append]
    rfl
  rw [h, hpull] at henv
  cases henv

/-- No environment is called like one that an operator puts in its place. -/
theorem envSecret_ne_envOverrideSecret (service other : String) :
    c.envSecret service ≠ c.envOverrideSecret other := by
  intro h
  have hlist := congrArg (fun text : String => text.toList.reverse) h
  simp only [envSecret, envOverrideSecret, String.toList_append, List.reverse_append] at hlist
  -- The last characters are the same, the ones before them are not.
  have hsecond := congrArg (fun list => list[1]?) hlist
  cases hsecond

/-- A service and a secret may be named such that their objects have one name. -/
theorem envSecret_eq_configSecret_iff {service secret : String} :
    c.envSecret service = c.configSecret secret ↔ service ++ "-base" = "-sec-" ++ secret := by
  have hdash : "--sec-" = "-" ++ "-sec-" := rfl
  rw [envSecret, configSecret, hdash, String.append_assoc, String.append_assoc,
    String.append_assoc, String.append_assoc, String.append_right_inj, String.append_right_inj]

end ComposeCluster.Component
