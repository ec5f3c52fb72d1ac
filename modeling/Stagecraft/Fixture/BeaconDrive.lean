/-
A fixture text: a drive of the beacon vehicle: the variables of twelve ticks, repeated.
-/
namespace Stagecraft.Fixture

/-- the lines of the text -/
def beaconDriveLines : List String :=
  ["\x7b",
   "  \"presentation\": \"beacon-vehicle\",",
   "  \"ticks\": 100,",
   "  \"timeline\": [",
   "    \x7b",
   "      \"engine_running\": 1.0,",
   "      \"throttle\": 0.0,",
   "      \"rpm\": 800.0,",
   "      \"horn\": 0.0,",
   "      \"backfire\": 0.0,",
   "      \"beacon_lights\": 0.0,",
   "      \"door_open\": 0.0,",
   "      \"in_water\": 0.0,",
   "      \"electric_power\": 12.0,",
   "      \"gear\": 0.0,",
   "      \"gear_shift\": 1.0",
   "    \x7d,",
   "    \x7b",
   "      \"engine_running\": 1.0,",
   "      \"throttle\": 0.1,",
   "      \"rpm\": 950.0,",
   "      \"horn\": 0.0,",
   "      \"backfire\": 0.0,",
   "      \"beacon_lights\": 0.0,",
   "      \"door_open\": 0.0,",
   "      \"in_water\": 0.0,",
   "      \"electric_power\": 12.0,",
   "      \"gear\": 1.0,",
   "      \"gear_shift\": 0.0",
   "    \x7d,",
   "    \x7b",
   "      \"engine_running\": 1.0,",
   "      \"throttle\": 0.2,",
   "      \"rpm\": 1100.0,",
   "      \"horn\": 0.0,",
   "      \"backfire\": 0.0,",
   "      \"beacon_lights\": 1.0,",
   "      \"door_open\": 0.0,",
   "      \"in_water\": 0.0,",
   "      \"electric_power\": 12.0,",
   "      \"gear\": 2.0,",
   "      \"gear_shift\": 0.0",
   "    \x7d,",
   "    \x7b",
   "      \"engine_running\": 1.0,",
   "      \"throttle\": 0.3,",
   "      \"rpm\": 1250.0,",
   "      \"horn\": 1.0,",
   "      \"backfire\": 0.0,",
   "      \"beacon_lights\": 1.0,",
   "      \"door_open\": 0.0,",
   "      \"in_water\": 0.0,",
   "      \"electric_power\": 12.0,",
   "      \"gear\": 3.0,",
   "      \"gear_shift\": 1.0",
   "    \x7d,",
   "    \x7b",
   "      \"engine_running\": 1.0,",
   "      \"throttle\": 0.4,",
   "      \"rpm\": 1400.0,",
   "      \"horn\": 1.0,",
   "      \"backfire\": 0.0,",
   "      \"beacon_lights\": 1.0,",
   "      \"door_open\": 0.0,",
   "      \"in_water\": 0.0,",
   "      \"electric_power\": 12.0,",
   "      \"gear\": 0.0,",
   "      \"gear_shift\": 0.0",
   "    \x7d,",
   "    \x7b",
   "      \"engine_running\": 1.0,",
   "      \"throttle\": 0.5,",
   "      \"rpm\": 1550.0,",
   "      \"horn\": 0.0,",
   "      \"backfire\": 1.0,",
   "      \"beacon_lights\": 1.0,",
   "      \"door_open\": 0.0,",
   "      \"in_water\": 0.0,",
   "      \"electric_power\": 12.0,",
   "      \"gear\": 1.0,",
   "      \"gear_shift\": 0.0",
   "    \x7d,",
   "    \x7b",
   "      \"engine_running\": 1.0,",
   "      \"throttle\": 0.0,",
   "      \"rpm\": 1700.0,",
   "      \"horn\": 0.0,",
   "      \"backfire\": 0.0,",
   "      \"beacon_lights\": 1.0,",
   "      \"door_open\": 1.0,",
   "      \"in_water\": 0.0,",
   "      \"electric_power\": 12.0,",
   "      \"gear\": 2.0,",
   "      \"gear_shift\": 1.0",
   "    \x7d,",
   "    \x7b",
   "      \"engine_running\": 1.0,",
   "      \"throttle\": 0.1,",
   "      \"rpm\": 1850.0,",
   "      \"horn\": 1.0,",
   "      \"backfire\": 0.0,",
   "      \"beacon_lights\": 1.0,",
   "      \"door_open\": 1.0,",
   "      \"in_water\": 0.0,",
   "      \"electric_power\": 12.0,",
   "      \"gear\": 3.0,",
   "      \"gear_shift\": 0.0",
   "    \x7d,",
   "    \x7b",
   "      \"engine_running\": 1.0,",
   "      \"throttle\": 0.2,",
   "      \"rpm\": 2000.0,",
   "      \"horn\": 0.0,",
   "      \"backfire\": 0.0,",
   "      \"beacon_lights\": 1.0,",
   "      \"door_open\": 1.0,",
   "      \"in_water\": 0.0,",
   "      \"electric_power\": 12.0,",
   "      \"gear\": 0.0,",
   "      \"gear_shift\": 0.0",
   "    \x7d,",
   "    \x7b",
   "      \"engine_running\": 0.0,",
   "      \"throttle\": 0.3,",
   "      \"rpm\": 2150.0,",
   "      \"horn\": 0.0,",
   "      \"backfire\": 0.0,",
   "      \"beacon_lights\": 1.0,",
   "      \"door_open\": 0.0,",
   "      \"in_water\": 0.0,",
   "      \"electric_power\": 12.0,",
   "      \"gear\": 1.0,",
   "      \"gear_shift\": 1.0",
   "    \x7d,",
   "    \x7b",
   "      \"engine_running\": 0.0,",
   "      \"throttle\": 0.4,",
   "      \"rpm\": 2300.0,",
   "      \"horn\": 0.0,",
   "      \"backfire\": 0.0,",
   "      \"beacon_lights\": 1.0,",
   "      \"door_open\": 0.0,",
   "      \"in_water\": 1.0,",
   "      \"electric_power\": 12.0,",
   "      \"gear\": 2.0,",
   "      \"gear_shift\": 0.0",
   "    \x7d,",
   "    \x7b",
   "      \"engine_running\": 0.0,",
   "      \"throttle\": 0.5,",
   "      \"rpm\": 2450.0,",
   "      \"horn\": 0.0,",
   "      \"backfire\": 0.0,",
   "      \"beacon_lights\": 1.0,",
   "      \"door_open\": 0.0,",
   "      \"in_water\": 0.0,",
   "      \"electric_power\": 12.0,",
   "      \"gear\": 3.0,",
   "      \"gear_shift\": 0.0",
   "    \x7d",
   "  ]",
   "\x7d"]

end Stagecraft.Fixture
