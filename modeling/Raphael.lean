import Raphael.Fingerprint.Status
import Raphael.Fingerprint.PowerHint
import Raphael.Fingerprint.PowerHintRuns
import Raphael.Fingerprint.Construction
import Raphael.Fingerprint.Requests
import Raphael.Fingerprint.Notify
import Raphael.Init.Variant
import Raphael.Fingerprint.Service
