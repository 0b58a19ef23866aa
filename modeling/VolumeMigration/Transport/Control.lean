import VolumeMigration.Cluster.Pod
import VolumeMigration.Text.FilePath
/-!
# The control file

A pod with side-cars shares a volume with a file in it. The payload writes the
file when it is done, and the side-cars end once it is there.
-/

namespace VolumeMigration.Control

/-- The file that the payload writes when it is done. -/
def file : String := "/usr/share/ferry/done"

def volumeName : String := "ferry-control"

/-- The volume that holds the control file, for as long as the pod lives. -/
def volume : Volume := { name := volumeName, emptyDir := some [] }

/-- The control volume at the directory of the control file. -/
def mount (file : String) : VolumeMount := { name := volumeName, mountPath := Text.directoryOf file }

/-- The beginning of a script that writes the control file however it ends. -/
def trap : String := s!"trap 'touch {file}' EXIT\n"

end VolumeMigration.Control
