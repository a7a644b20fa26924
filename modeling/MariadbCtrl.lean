import MariadbCtrl.Collaborators
import MariadbCtrl.StartManager
import MariadbCtrl.Seeding
import MariadbCtrl.Execute
import MariadbCtrl.Outcome
import MariadbCtrl.StateFile
import MariadbCtrl.Lifetime
import MariadbCtrl.Bootstrap
