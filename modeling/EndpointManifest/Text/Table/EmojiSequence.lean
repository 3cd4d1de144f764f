/-!
The names of emoji that are several characters: sequences, those that come in tones, and flags.
-/

namespace EndpointManifest.Text.Table

set_option maxRecDepth 8192

def emojiSequences : List (String × List Nat) :=
  [("bald_man", [0x1F468, 0x200D, 0x1F9B2]), ("bald_woman", [0x1F469, 0x200D, 0x1F9B2]),
   ("blond-haired_man", [0x1F471, 0x200D, 0x2642, 0xFE0F]),
   ("blond-haired_woman", [0x1F471, 0x200D, 0x2640, 0xFE0F]),
   ("couple_with_heart_man_man", [0x1F468, 0x200D, 0x2764, 0xFE0F, 0x200D, 0x1F468]),
   ("couple_with_heart_woman_man", [0x1F469, 0x200D, 0x2764, 0xFE0F, 0x200D, 0x1F468]),
   ("couple_with_heart_woman_woman", [0x1F469, 0x200D, 0x2764, 0xFE0F, 0x200D, 0x1F469]),
   ("curly-haired_man", [0x1F468, 0x200D, 0x1F9B1]),
   ("curly-haired_woman", [0x1F469, 0x200D, 0x1F9B1]), ("eight", [0x38, 0xFE0F, 0x20E3]),
   ("england", [0x1F3F4, 0xE0067, 0xE0062, 0xE0065, 0xE006E, 0xE0067, 0xE007F]),
   ("eye_in_speech_bubble", [0x1F441, 0xFE0F, 0x200D, 0x1F5E8, 0xFE0F]),
   ("family_man_boy", [0x1F468, 0x200D, 0x1F466]),
   ("family_man_boy_boy", [0x1F468, 0x200D, 0x1F466, 0x200D, 0x1F466]),
   ("family_man_girl", [0x1F468, 0x200D, 0x1F467]),
   ("family_man_girl_boy", [0x1F468, 0x200D, 0x1F467, 0x200D, 0x1F466]),
   ("family_man_girl_girl", [0x1F468, 0x200D, 0x1F467, 0x200D, 0x1F467]),
   ("family_man_man_boy", [0x1F468, 0x200D, 0x1F468, 0x200D, 0x1F466]),
   ("family_man_man_boy_boy", [0x1F468, 0x200D, 0x1F468, 0x200D, 0x1F466, 0x200D, 0x1F466]),
   ("family_man_man_girl", [0x1F468, 0x200D, 0x1F468, 0x200D, 0x1F467]),
   ("family_man_man_girl_boy", [0x1F468, 0x200D, 0x1F468, 0x200D, 0x1F467, 0x200D, 0x1F466]),
   ("family_man_man_girl_girl", [0x1F468, 0x200D, 0x1F468, 0x200D, 0x1F467, 0x200D, 0x1F467]),
   ("family_man_woman_boy", [0x1F468, 0x200D, 0x1F469, 0x200D, 0x1F466]),
   ("family_man_woman_boy_boy", [0x1F468, 0x200D, 0x1F469, 0x200D, 0x1F466, 0x200D, 0x1F466]),
   ("family_man_woman_girl", [0x1F468, 0x200D, 0x1F469, 0x200D, 0x1F467]),
   ("family_man_woman_girl_boy", [0x1F468, 0x200D, 0x1F469, 0x200D, 0x1F467, 0x200D, 0x1F466]),
   ("family_man_woman_girl_girl", [0x1F468, 0x200D, 0x1F469, 0x200D, 0x1F467, 0x200D, 0x1F467]),
   ("family_woman_boy", [0x1F469, 0x200D, 0x1F466]),
   ("family_woman_boy_boy", [0x1F469, 0x200D, 0x1F466, 0x200D, 0x1F466]),
   ("family_woman_girl", [0x1F469, 0x200D, 0x1F467]),
   ("family_woman_girl_boy", [0x1F469, 0x200D, 0x1F467, 0x200D, 0x1F466]),
   ("family_woman_girl_girl", [0x1F469, 0x200D, 0x1F467, 0x200D, 0x1F467]),
   ("family_woman_woman_boy", [0x1F469, 0x200D, 0x1F469, 0x200D, 0x1F466]),
   ("family_woman_woman_boy_boy", [0x1F469, 0x200D, 0x1F469, 0x200D, 0x1F466, 0x200D, 0x1F466]),
   ("family_woman_woman_girl", [0x1F469, 0x200D, 0x1F469, 0x200D, 0x1F467]),
   ("family_woman_woman_girl_boy", [0x1F469, 0x200D, 0x1F469, 0x200D, 0x1F467, 0x200D, 0x1F466]),
   ("family_woman_woman_girl_girl", [0x1F469, 0x200D, 0x1F469, 0x200D, 0x1F467, 0x200D, 0x1F467]),
   ("five", [0x35, 0xFE0F, 0x20E3]), ("four", [0x34, 0xFE0F, 0x20E3]),
   ("keycap_#", [0x23, 0xFE0F, 0x20E3]), ("keycap_*", [0x2A, 0xFE0F, 0x20E3]),
   ("keycap_0", [0x30, 0xFE0F, 0x20E3]), ("keycap_1", [0x31, 0xFE0F, 0x20E3]),
   ("keycap_2", [0x32, 0xFE0F, 0x20E3]), ("keycap_3", [0x33, 0xFE0F, 0x20E3]),
   ("keycap_4", [0x34, 0xFE0F, 0x20E3]), ("keycap_5", [0x35, 0xFE0F, 0x20E3]),
   ("keycap_6", [0x36, 0xFE0F, 0x20E3]), ("keycap_7", [0x37, 0xFE0F, 0x20E3]),
   ("keycap_8", [0x38, 0xFE0F, 0x20E3]), ("keycap_9", [0x39, 0xFE0F, 0x20E3]),
   ("keycap_asterisk", [0x2A, 0x20E3]), ("keycap_digit_eight", [0x38, 0x20E3]),
   ("keycap_digit_five", [0x35, 0x20E3]), ("keycap_digit_four", [0x34, 0x20E3]),
   ("keycap_digit_nine", [0x39, 0x20E3]), ("keycap_digit_one", [0x31, 0x20E3]),
   ("keycap_digit_seven", [0x37, 0x20E3]), ("keycap_digit_six", [0x36, 0x20E3]),
   ("keycap_digit_three", [0x33, 0x20E3]), ("keycap_digit_two", [0x32, 0x20E3]),
   ("keycap_digit_zero", [0x30, 0x20E3]), ("keycap_number_sign", [0x23, 0x20E3]),
   ("kiss_man_man", [0x1F468, 0x200D, 0x2764, 0xFE0F, 0x200D, 0x1F48B, 0x200D, 0x1F468]),
   ("kiss_woman_man", [0x1F469, 0x200D, 0x2764, 0xFE0F, 0x200D, 0x1F48B, 0x200D, 0x1F468]),
   ("kiss_woman_woman", [0x1F469, 0x200D, 0x2764, 0xFE0F, 0x200D, 0x1F48B, 0x200D, 0x1F469]),
   ("man_artist", [0x1F468, 0x200D, 0x1F3A8]), ("man_astronaut", [0x1F468, 0x200D, 0x1F680]),
   ("man_biking", [0x1F6B4, 0x200D, 0x2642, 0xFE0F]),
   ("man_bouncing_ball", [0x26F9, 0xFE0F, 0x200D, 0x2642, 0xFE0F]),
   ("man_bowing", [0x1F647, 0x200D, 0x2642, 0xFE0F]),
   ("man_cartwheeling", [0x1F938, 0x200D, 0x2642, 0xFE0F]),
   ("man_climbing", [0x1F9D7, 0x200D, 0x2642, 0xFE0F]),
   ("man_construction_worker", [0x1F477, 0x200D, 0x2642, 0xFE0F]),
   ("man_cook", [0x1F468, 0x200D, 0x1F373]),
   ("man_detective", [0x1F575, 0xFE0F, 0x200D, 0x2642, 0xFE0F]),
   ("man_elf", [0x1F9DD, 0x200D, 0x2642, 0xFE0F]),
   ("man_facepalming", [0x1F926, 0x200D, 0x2642, 0xFE0F]),
   ("man_factory_worker", [0x1F468, 0x200D, 0x1F3ED]),
   ("man_fairy", [0x1F9DA, 0x200D, 0x2642, 0xFE0F]), ("man_farmer", [0x1F468, 0x200D, 0x1F33E]),
   ("man_firefighter", [0x1F468, 0x200D, 0x1F692]),
   ("man_frowning", [0x1F64D, 0x200D, 0x2642, 0xFE0F]),
   ("man_genie", [0x1F9DE, 0x200D, 0x2642, 0xFE0F]),
   ("man_gesturing_no", [0x1F645, 0x200D, 0x2642, 0xFE0F]),
   ("man_gesturing_ok", [0x1F646, 0x200D, 0x2642, 0xFE0F]),
   ("man_getting_haircut", [0x1F487, 0x200D, 0x2642, 0xFE0F]),
   ("man_getting_massage", [0x1F486, 0x200D, 0x2642, 0xFE0F]),
   ("man_golfing", [0x1F3CC, 0xFE0F, 0x200D, 0x2642, 0xFE0F]),
   ("man_guard", [0x1F482, 0x200D, 0x2642, 0xFE0F]),
   ("man_health_worker", [0x1F468, 0x200D, 0x2695, 0xFE0F]),
   ("man_in_lotus_position", [0x1F9D8, 0x200D, 0x2642, 0xFE0F]),
   ("man_in_manual_wheelchair", [0x1F468, 0x200D, 0x1F9BD]),
   ("man_in_motorized_wheelchair", [0x1F468, 0x200D, 0x1F9BC]),
   ("man_in_steamy_room", [0x1F9D6, 0x200D, 0x2642, 0xFE0F]),
   ("man_judge", [0x1F468, 0x200D, 0x2696, 0xFE0F]),
   ("man_juggling", [0x1F939, 0x200D, 0x2642, 0xFE0F]),
   ("man_lifting_weights", [0x1F3CB, 0xFE0F, 0x200D, 0x2642, 0xFE0F]),
   ("man_mage", [0x1F9D9, 0x200D, 0x2642, 0xFE0F]), ("man_mechanic", [0x1F468, 0x200D, 0x1F527]),
   ("man_mountain_biking", [0x1F6B5, 0x200D, 0x2642, 0xFE0F]),
   ("man_office_worker", [0x1F468, 0x200D, 0x1F4BC]),
   ("man_pilot", [0x1F468, 0x200D, 0x2708, 0xFE0F]),
   ("man_playing_handball", [0x1F93E, 0x200D, 0x2642, 0xFE0F]),
   ("man_playing_water_polo", [0x1F93D, 0x200D, 0x2642, 0xFE0F]),
   ("man_police_officer", [0x1F46E, 0x200D, 0x2642, 0xFE0F]),
   ("man_pouting", [0x1F64E, 0x200D, 0x2642, 0xFE0F]),
   ("man_raising_hand", [0x1F64B, 0x200D, 0x2642, 0xFE0F]),
   ("man_rowing_boat", [0x1F6A3, 0x200D, 0x2642, 0xFE0F]),
   ("man_running", [0x1F3C3, 0x200D, 0x2642, 0xFE0F]),
   ("man_scientist", [0x1F468, 0x200D, 0x1F52C]),
   ("man_shrugging", [0x1F937, 0x200D, 0x2642, 0xFE0F]), ("man_singer", [0x1F468, 0x200D, 0x1F3A4]),
   ("man_student", [0x1F468, 0x200D, 0x1F393]), ("man_surfing", [0x1F3C4, 0x200D, 0x2642, 0xFE0F]),
   ("man_swimming", [0x1F3CA, 0x200D, 0x2642, 0xFE0F]), ("man_teacher", [0x1F468, 0x200D, 0x1F3EB]),
   ("man_technologist", [0x1F468, 0x200D, 0x1F4BB]),
   ("man_tipping_hand", [0x1F481, 0x200D, 0x2642, 0xFE0F]),
   ("man_vampire", [0x1F9DB, 0x200D, 0x2642, 0xFE0F]),
   ("man_walking", [0x1F6B6, 0x200D, 0x2642, 0xFE0F]),
   ("man_wearing_turban", [0x1F473, 0x200D, 0x2642, 0xFE0F]),
   ("man_with_probing_cane", [0x1F468, 0x200D, 0x1F9AF]),
   ("man_zombie", [0x1F9DF, 0x200D, 0x2642, 0xFE0F]),
   ("men_with_bunny_ears", [0x1F46F, 0x200D, 0x2642, 0xFE0F]),
   ("men_wrestling", [0x1F93C, 0x200D, 0x2642, 0xFE0F]),
   ("mermaid", [0x1F9DC, 0x200D, 0x2640, 0xFE0F]), ("merman", [0x1F9DC, 0x200D, 0x2642, 0xFE0F]),
   ("nine", [0x39, 0xFE0F, 0x20E3]), ("one", [0x31, 0xFE0F, 0x20E3]),
   ("people_holding_hands", [0x1F9D1, 0x200D, 0x1F91D, 0x200D, 0x1F9D1]),
   ("pirate_flag", [0x1F3F4, 0x200D, 0x2620, 0xFE0F]),
   ("rainbow_flag", [0x1F3F3, 0xFE0F, 0x200D, 0x1F308]),
   ("red-haired_man", [0x1F468, 0x200D, 0x1F9B0]), ("red-haired_woman", [0x1F469, 0x200D, 0x1F9B0]),
   ("scotland", [0x1F3F4, 0xE0067, 0xE0062, 0xE0073, 0xE0063, 0xE0074, 0xE007F]),
   ("service_dog", [0x1F415, 0x200D, 0x1F9BA]), ("seven", [0x37, 0xFE0F, 0x20E3]),
   ("six", [0x36, 0xFE0F, 0x20E3]), ("three", [0x33, 0xFE0F, 0x20E3]),
   ("two", [0x32, 0xFE0F, 0x20E3]),
   ("wales", [0x1F3F4, 0xE0067, 0xE0062, 0xE0077, 0xE006C, 0xE0073, 0xE007F]),
   ("white-haired_man", [0x1F468, 0x200D, 0x1F9B3]),
   ("white-haired_woman", [0x1F469, 0x200D, 0x1F9B3]), ("woman_artist", [0x1F469, 0x200D, 0x1F3A8]),
   ("woman_astronaut", [0x1F469, 0x200D, 0x1F680]),
   ("woman_biking", [0x1F6B4, 0x200D, 0x2640, 0xFE0F]),
   ("woman_bouncing_ball", [0x26F9, 0xFE0F, 0x200D, 0x2640, 0xFE0F]),
   ("woman_bowing", [0x1F647, 0x200D, 0x2640, 0xFE0F]),
   ("woman_cartwheeling", [0x1F938, 0x200D, 0x2640, 0xFE0F]),
   ("woman_climbing", [0x1F9D7, 0x200D, 0x2640, 0xFE0F]),
   ("woman_construction_worker", [0x1F477, 0x200D, 0x2640, 0xFE0F]),
   ("woman_cook", [0x1F469, 0x200D, 0x1F373]),
   ("woman_detective", [0x1F575, 0xFE0F, 0x200D, 0x2640, 0xFE0F]),
   ("woman_elf", [0x1F9DD, 0x200D, 0x2640, 0xFE0F]),
   ("woman_facepalming", [0x1F926, 0x200D, 0x2640, 0xFE0F]),
   ("woman_factory_worker", [0x1F469, 0x200D, 0x1F3ED]),
   ("woman_fairy", [0x1F9DA, 0x200D, 0x2640, 0xFE0F]), ("woman_farmer", [0x1F469, 0x200D, 0x1F33E]),
   ("woman_firefighter", [0x1F469, 0x200D, 0x1F692]),
   ("woman_frowning", [0x1F64D, 0x200D, 0x2640, 0xFE0F]),
   ("woman_genie", [0x1F9DE, 0x200D, 0x2640, 0xFE0F]),
   ("woman_gesturing_no", [0x1F645, 0x200D, 0x2640, 0xFE0F]),
   ("woman_gesturing_ok", [0x1F646, 0x200D, 0x2640, 0xFE0F]),
   ("woman_getting_haircut", [0x1F487, 0x200D, 0x2640, 0xFE0F]),
   ("woman_getting_massage", [0x1F486, 0x200D, 0x2640, 0xFE0F]),
   ("woman_golfing", [0x1F3CC, 0xFE0F, 0x200D, 0x2640, 0xFE0F]),
   ("woman_guard", [0x1F482, 0x200D, 0x2640, 0xFE0F]),
   ("woman_health_worker", [0x1F469, 0x200D, 0x2695, 0xFE0F]),
   ("woman_in_lotus_position", [0x1F9D8, 0x200D, 0x2640, 0xFE0F]),
   ("woman_in_manual_wheelchair", [0x1F469, 0x200D, 0x1F9BD]),
   ("woman_in_motorized_wheelchair", [0x1F469, 0x200D, 0x1F9BC]),
   ("woman_in_steamy_room", [0x1F9D6, 0x200D, 0x2640, 0xFE0F]),
   ("woman_judge", [0x1F469, 0x200D, 0x2696, 0xFE0F]),
   ("woman_juggling", [0x1F939, 0x200D, 0x2640, 0xFE0F]),
   ("woman_lifting_weights", [0x1F3CB, 0xFE0F, 0x200D, 0x2640, 0xFE0F]),
   ("woman_mage", [0x1F9D9, 0x200D, 0x2640, 0xFE0F]),
   ("woman_mechanic", [0x1F469, 0x200D, 0x1F527]),
   ("woman_mountain_biking", [0x1F6B5, 0x200D, 0x2640, 0xFE0F]),
   ("woman_office_worker", [0x1F469, 0x200D, 0x1F4BC]),
   ("woman_pilot", [0x1F469, 0x200D, 0x2708, 0xFE0F]),
   ("woman_playing_handball", [0x1F93E, 0x200D, 0x2640, 0xFE0F]),
   ("woman_playing_water_polo", [0x1F93D, 0x200D, 0x2640, 0xFE0F]),
   ("woman_police_officer", [0x1F46E, 0x200D, 0x2640, 0xFE0F]),
   ("woman_pouting", [0x1F64E, 0x200D, 0x2640, 0xFE0F]),
   ("woman_raising_hand", [0x1F64B, 0x200D, 0x2640, 0xFE0F]),
   ("woman_rowing_boat", [0x1F6A3, 0x200D, 0x2640, 0xFE0F]),
   ("woman_running", [0x1F3C3, 0x200D, 0x2640, 0xFE0F]),
   ("woman_scientist", [0x1F469, 0x200D, 0x1F52C]),
   ("woman_shrugging", [0x1F937, 0x200D, 0x2640, 0xFE0F]),
   ("woman_singer", [0x1F469, 0x200D, 0x1F3A4]), ("woman_student", [0x1F469, 0x200D, 0x1F393]),
   ("woman_surfing", [0x1F3C4, 0x200D, 0x2640, 0xFE0F]),
   ("woman_swimming", [0x1F3CA, 0x200D, 0x2640, 0xFE0F]),
   ("woman_teacher", [0x1F469, 0x200D, 0x1F3EB]),
   ("woman_technologist", [0x1F469, 0x200D, 0x1F4BB]),
   ("woman_tipping_hand", [0x1F481, 0x200D, 0x2640, 0xFE0F]),
   ("woman_vampire", [0x1F9DB, 0x200D, 0x2640, 0xFE0F]),
   ("woman_walking", [0x1F6B6, 0x200D, 0x2640, 0xFE0F]),
   ("woman_wearing_turban", [0x1F473, 0x200D, 0x2640, 0xFE0F]),
   ("woman_with_probing_cane", [0x1F469, 0x200D, 0x1F9AF]),
   ("woman_zombie", [0x1F9DF, 0x200D, 0x2640, 0xFE0F]),
   ("women_with_bunny_ears", [0x1F46F, 0x200D, 0x2640, 0xFE0F]),
   ("women_wrestling", [0x1F93C, 0x200D, 0x2640, 0xFE0F]), ("zero", [0x30, 0xFE0F, 0x20E3])]

def tonedEmoji : List String :=
  ["adult", "baby", "baby_angel", "backhand_index_pointing_down", "backhand_index_pointing_left",
   "backhand_index_pointing_right", "backhand_index_pointing_up", "bearded_person",
   "blond-haired_man", "blond-haired_person", "blond-haired_woman", "boy", "breast-feeding",
   "bride_with_veil", "call_me_hand", "child", "clapping_hands", "construction_worker",
   "crossed_fingers", "detective", "ear", "elf", "fairy", "flexed_biceps", "folded_hands", "girl",
   "guard", "hand_with_fingers_splayed", "horse_racing", "index_pointing_up", "left-facing_fist",
   "love-you_gesture", "mage", "man", "man_artist", "man_astronaut", "man_biking",
   "man_bouncing_ball", "man_bowing", "man_cartwheeling", "man_climbing", "man_construction_worker",
   "man_cook", "man_dancing", "man_detective", "man_elf", "man_facepalming", "man_factory_worker",
   "man_fairy", "man_farmer", "man_firefighter", "man_frowning", "man_gesturing_no",
   "man_gesturing_ok", "man_getting_haircut", "man_getting_massage", "man_golfing", "man_guard",
   "man_health_worker", "man_in_lotus_position", "man_in_steamy_room", "man_in_suit_levitating",
   "man_in_tuxedo", "man_judge", "man_juggling", "man_lifting_weights", "man_mage", "man_mechanic",
   "man_mountain_biking", "man_office_worker", "man_pilot", "man_playing_handball",
   "man_playing_water_polo", "man_police_officer", "man_pouting", "man_raising_hand",
   "man_rowing_boat", "man_running", "man_scientist", "man_shrugging", "man_singer", "man_student",
   "man_surfing", "man_swimming", "man_teacher", "man_technologist", "man_tipping_hand",
   "man_vampire", "man_walking", "man_wearing_turban", "man_with_chinese_cap", "mermaid", "merman",
   "merperson", "middle_finger", "mrs._claus", "nail_polish", "nose", "ok_hand", "old_man",
   "old_woman", "older_adult", "oncoming_fist", "open_hands", "palms_up_together", "person_biking",
   "person_bouncing_ball", "person_bowing", "person_cartwheeling", "person_climbing",
   "person_facepalming", "person_frowning", "person_gesturing_no", "person_gesturing_ok",
   "person_getting_haircut", "person_getting_massage", "person_golfing", "person_in_bed",
   "person_in_lotus_position", "person_in_steamy_room", "person_juggling", "person_lifting_weights",
   "person_mountain_biking", "person_playing_handball", "person_playing_water_polo",
   "person_pouting", "person_raising_hand", "person_rowing_boat", "person_running",
   "person_shrugging", "person_surfing", "person_swimming", "person_taking_bath",
   "person_tipping_hand", "person_walking", "person_wearing_turban", "police_officer",
   "pregnant_woman", "prince", "princess", "raised_back_of_hand", "raised_fist", "raised_hand",
   "raising_hands", "right-facing_fist", "santa_claus", "selfie", "sign_of_the_horns",
   "snowboarder", "thumbs_down", "thumbs_up", "vampire", "victory_hand", "vulcan_salute",
   "waving_hand", "woman", "woman_artist", "woman_astronaut", "woman_biking", "woman_bouncing_ball",
   "woman_bowing", "woman_cartwheeling", "woman_climbing", "woman_construction_worker",
   "woman_cook", "woman_dancing", "woman_detective", "woman_elf", "woman_facepalming",
   "woman_factory_worker", "woman_fairy", "woman_farmer", "woman_firefighter", "woman_frowning",
   "woman_gesturing_no", "woman_gesturing_ok", "woman_getting_haircut", "woman_getting_massage",
   "woman_golfing", "woman_guard", "woman_health_worker", "woman_in_lotus_position",
   "woman_in_steamy_room", "woman_judge", "woman_juggling", "woman_lifting_weights", "woman_mage",
   "woman_mechanic", "woman_mountain_biking", "woman_office_worker", "woman_pilot",
   "woman_playing_handball", "woman_playing_water_polo", "woman_police_officer", "woman_pouting",
   "woman_raising_hand", "woman_rowing_boat", "woman_running", "woman_scientist", "woman_shrugging",
   "woman_singer", "woman_student", "woman_surfing", "woman_swimming", "woman_teacher",
   "woman_technologist", "woman_tipping_hand", "woman_vampire", "woman_walking",
   "woman_wearing_turban", "woman_with_headscarf", "writing_hand"]

/-- Regions by their codes, of which the letters make the flag. -/
def regions : List (String × String) :=
  [("afghanistan", "AF"), ("albania", "AL"), ("algeria", "DZ"), ("american_samoa", "AS"),
   ("andorra", "AD"), ("angola", "AO"), ("anguilla", "AI"), ("antarctica", "AQ"),
   ("antigua_&_barbuda", "AG"), ("argentina", "AR"), ("armenia", "AM"), ("aruba", "AW"),
   ("ascension_island", "AC"), ("australia", "AU"), ("austria", "AT"), ("azerbaijan", "AZ"),
   ("bahamas", "BS"), ("bahrain", "BH"), ("bangladesh", "BD"), ("barbados", "BB"),
   ("belarus", "BY"), ("belgium", "BE"), ("belize", "BZ"), ("benin", "BJ"), ("bermuda", "BM"),
   ("bhutan", "BT"), ("bolivia", "BO"), ("bosnia_&_herzegovina", "BA"), ("botswana", "BW"),
   ("bouvet_island", "BV"), ("brazil", "BR"), ("british_indian_ocean_territory", "IO"),
   ("british_virgin_islands", "VG"), ("brunei", "BN"), ("bulgaria", "BG"), ("burkina_faso", "BF"),
   ("burundi", "BI"), ("cambodia", "KH"), ("cameroon", "CM"), ("canada", "CA"),
   ("canary_islands", "IC"), ("cape_verde", "CV"), ("caribbean_netherlands", "BQ"),
   ("cayman_islands", "KY"), ("central_african_republic", "CF"), ("ceuta_&_melilla", "EA"),
   ("chad", "TD"), ("chile", "CL"), ("china", "CN"), ("christmas_island", "CX"),
   ("clipperton_island", "CP"), ("colombia", "CO"), ("comoros", "KM"), ("cook_islands", "CK"),
   ("costa_rica", "CR"), ("croatia", "HR"), ("cuba", "CU"), ("curaçao", "CW"), ("cyprus", "CY"),
   ("côte_d’ivoire", "CI"), ("denmark", "DK"), ("diego_garcia", "DG"), ("djibouti", "DJ"),
   ("dominica", "DM"), ("dominican_republic", "DO"), ("ecuador", "EC"), ("egypt", "EG"),
   ("el_salvador", "SV"), ("equatorial_guinea", "GQ"), ("eritrea", "ER"), ("estonia", "EE"),
   ("ethiopia", "ET"), ("european_union", "EU"), ("falkland_islands", "FK"),
   ("faroe_islands", "FO"), ("fiji", "FJ"), ("finland", "FI"), ("france", "FR"),
   ("french_guiana", "GF"), ("french_polynesia", "PF"), ("french_southern_territories", "TF"),
   ("gabon", "GA"), ("gambia", "GM"), ("georgia", "GE"), ("germany", "DE"), ("ghana", "GH"),
   ("gibraltar", "GI"), ("greece", "GR"), ("greenland", "GL"), ("grenada", "GD"),
   ("guadeloupe", "GP"), ("guam", "GU"), ("guatemala", "GT"), ("guernsey", "GG"), ("guinea", "GN"),
   ("guyana", "GY"), ("haiti", "HT"), ("heard_&_mcdonald_islands", "HM"), ("honduras", "HN"),
   ("hungary", "HU"), ("iceland", "IS"), ("india", "IN"), ("indonesia", "ID"), ("iran", "IR"),
   ("iraq", "IQ"), ("ireland", "IE"), ("isle_of_man", "IM"), ("israel", "IL"), ("italy", "IT"),
   ("jamaica", "JM"), ("jersey", "JE"), ("jordan", "JO"), ("kazakhstan", "KZ"), ("kenya", "KE"),
   ("kiribati", "KI"), ("kosovo", "XK"), ("kuwait", "KW"), ("kyrgyzstan", "KG"), ("laos", "LA"),
   ("latvia", "LV"), ("lebanon", "LB"), ("lesotho", "LS"), ("liberia", "LR"), ("libya", "LY"),
   ("liechtenstein", "LI"), ("lithuania", "LT"), ("luxembourg", "LU"), ("macedonia", "MK"),
   ("madagascar", "MG"), ("malawi", "MW"), ("malaysia", "MY"), ("maldives", "MV"), ("mali", "ML"),
   ("malta", "MT"), ("marshall_islands", "MH"), ("martinique", "MQ"), ("mauritania", "MR"),
   ("mauritius", "MU"), ("mayotte", "YT"), ("mexico", "MX"), ("micronesia", "FM"),
   ("moldova", "MD"), ("monaco", "MC"), ("mongolia", "MN"), ("montenegro", "ME"),
   ("montserrat", "MS"), ("morocco", "MA"), ("mozambique", "MZ"), ("namibia", "NA"),
   ("nauru", "NR"), ("nepal", "NP"), ("netherlands", "NL"), ("new_caledonia", "NC"),
   ("new_zealand", "NZ"), ("nicaragua", "NI"), ("niger", "NE"), ("nigeria", "NG"), ("niue", "NU"),
   ("norfolk_island", "NF"), ("north_korea", "KP"), ("northern_mariana_islands", "MP"),
   ("norway", "NO"), ("oman", "OM"), ("pakistan", "PK"), ("palau", "PW"),
   ("palestinian_territories", "PS"), ("panama", "PA"), ("papua_new_guinea", "PG"),
   ("paraguay", "PY"), ("peru", "PE"), ("philippines", "PH"), ("pitcairn_islands", "PN"),
   ("poland", "PL"), ("portugal", "PT"), ("puerto_rico", "PR"), ("qatar", "QA"), ("romania", "RO"),
   ("russia", "RU"), ("rwanda", "RW"), ("réunion", "RE"), ("samoa", "WS"), ("san_marino", "SM"),
   ("saudi_arabia", "SA"), ("senegal", "SN"), ("serbia", "RS"), ("seychelles", "SC"),
   ("sierra_leone", "SL"), ("singapore", "SG"), ("sint_maarten", "SX"), ("slovakia", "SK"),
   ("slovenia", "SI"), ("solomon_islands", "SB"), ("somalia", "SO"), ("south_africa", "ZA"),
   ("south_georgia_&_south_sandwich_islands", "GS"), ("south_korea", "KR"), ("south_sudan", "SS"),
   ("spain", "ES"), ("sri_lanka", "LK"), ("st._barthélemy", "BL"), ("st._helena", "SH"),
   ("st._kitts_&_nevis", "KN"), ("st._lucia", "LC"), ("st._martin", "MF"),
   ("st._pierre_&_miquelon", "PM"), ("st._vincent_&_grenadines", "VC"), ("sudan", "SD"),
   ("suriname", "SR"), ("svalbard_&_jan_mayen", "SJ"), ("swaziland", "SZ"), ("sweden", "SE"),
   ("switzerland", "CH"), ("syria", "SY"), ("são_tomé_&_príncipe", "ST"), ("taiwan", "TW"),
   ("tajikistan", "TJ"), ("tanzania", "TZ"), ("thailand", "TH"), ("togo", "TG"), ("tokelau", "TK"),
   ("tonga", "TO"), ("trinidad_&_tobago", "TT"), ("tristan_da_cunha", "TA"), ("tunisia", "TN"),
   ("turkmenistan", "TM"), ("turks_&_caicos_islands", "TC"), ("tuvalu", "TV"),
   ("u.s._outlying_islands", "UM"), ("u.s._virgin_islands", "VI"), ("uganda", "UG"),
   ("ukraine", "UA"), ("united_arab_emirates", "AE"), ("united_kingdom", "GB"),
   ("united_states", "US"), ("uruguay", "UY"), ("uzbekistan", "UZ"), ("vanuatu", "VU"),
   ("vatican_city", "VA"), ("venezuela", "VE"), ("vietnam", "VN"), ("wallis_&_futuna", "WF"),
   ("western_sahara", "EH"), ("yemen", "YE"), ("zambia", "ZM"), ("zimbabwe", "ZW"),
   ("åland_islands", "AX")]

def flagNames : List (String × String) :=
  [("cocos_(keeling)_islands", "CC"), ("flag_for_cocos__islands", "CC"),
   ("congo_-_brazzaville", "CG"), ("flag_for_congo____brazzaville", "CG"),
   ("congo_-_kinshasa", "CD"), ("flag_for_congo____kinshasa", "CD"), ("czechia", "CZ"),
   ("flag_for_czech_republic", "CZ"), ("guinea-bissau", "GW"), ("flag_for_guinea__bissau", "GW"),
   ("hong_kong_sar_china", "HK"), ("flag_for_hong_kong", "HK"), ("macau_sar_china", "MO"),
   ("flag_for_macau", "MO"), ("myanmar_(burma)", "MM"), ("flag_for_myanmar", "MM"),
   ("timor-leste", "TL"), ("flag_for_timor__leste", "TL"), ("united_nations", "UN"),
   ("flag_for_japan", "JP"), ("flag_for_turkey", "TR")]

end EndpointManifest.Text.Table
